import RevisionGraph.Execution.Runner
import RevisionGraph.Execution.Programs
import RevisionGraph.Simulation.System.Schedule
import RevisionGraph.Simulation.Tools.Table

/-!
# Starting commands

`start` runs a command as the first process of a machine, as long as its time allows, and gives what
it left behind.  `install` puts the programs where they are looked for, and devices where they are
known.
-/

set_option autoImplicit false

namespace RevisionGraph.Execution

open RevisionGraph.System

/-- What surrounds a process. -/
structure Surroundings where
  directory : Place
  environment : Environment

/-- How many programs may start one in place of another. -/
def startLimit : Nat := 100000

/-! ## Finding the program -/

/-- Why the program in a file cannot be started; the bound is on the scripts that name each other.
-/
def obstacleFor? (s : Scene) : Nat → String → Option FileCause
  | 0, _ => some .tooManyLinks
  | n + 1, path =>
    match s.find path true with
    | .error cause => some cause
    | .ok (_, _, node) =>
      match node.content with
      | .file bytes =>
        if !node.isExecutable then some .permission
        else match imageName? bytes, interpreter? bytes with
          | some name, _ => if (Tools.programOf? name).isSome then none else some .badProgram
          | none, some (interpreter, _) =>
            if interpreter.isEmpty then some .badProgram else obstacleFor? s n interpreter
          | none, none => some .badProgram
      | _ => some .permission

/-- How many scripts may name each other to run them. -/
def interpreterLimit : Nat := 5

/-- The file of the program that a word names, or why there is none: of several causes the first
that is graver than a file that lacks. -/
def findStartable (s : Scene) (path : List String) (word : String) : Except FileCause String :=
  let candidates := if word.toList.contains '/' then [word] else path.map (· ++ "/" ++ word)
  let tries := candidates.map fun c ↦ (c, obstacleFor? s interpreterLimit c)
  match tries.find? fun t ↦ t.2.isNone with
  | some (found, _) => .ok found
  | none =>
    let causes := tries.filterMap Prod.snd
    .error ((causes.find? fun c ↦ c ≠ .notFound && c ≠ .notADirectory).getD
      (causes.getLastD .notFound))

/-! ## Running -/

/-- When a command that starts now is to be stopped, in microseconds; nothing stands for never. -/
def deadline (timeout : Seconds) : Option Nat :=
  match timeout.toBinary.toFraction? with
  | some (num, den) => some (1000000 * num.toNat / den)
  | none => none

/-- How the first process of a machine ended, or that it was stopped. -/
def endingOf (m : Machine) (inTime : Bool) : Ending :=
  match inTime, m.ending? with
  | true, some (.exited status) => .exited status
  | true, some (.killed signal) => .exited (-signal)
  | _, _ => .stopped

/-- Runs a program as a process. -/
def execute (around : Surroundings) (files : FileTree) (directory : Place) (path : String)
    (command : Engine.Command) : FileTree × Remains :=
  let environment := around.environment.entries.map fun (name, value) ↦
    (Text.Octets.ofName name, Text.Octets.ofName value)
  let call : Call := { words := command.words.map Text.Octets.ofName, environment }
  let behaviour := Act.behaviour do
    let _ ← launch Tools.programOf? startLimit path call
    return 127
  let m := Machine.start files directory behaviour
  let limit := deadline command.timeout
  -- without any time nothing begins
  let (m, inTime) := if limit = some 0 then (m, false) else m.run limit
  let ending := endingOf m inTime
  let elapsed := if ending = .stopped then command.timeout.toBinary
    else .ofQuotient false m.clock 1000000
  (m.files, ⟨m.collectedIn Machine.outputSink, m.collectedIn Machine.errorSink, ending, elapsed⟩)

/-- Runs a command as a process, as long as its time allows. -/
def start (around : Surroundings) : Start := fun files command ↦
  match command.words with
  | [] => (files, .error (.conversion .noFirstWord))
  | word :: arguments =>
    let names := around.environment.keys
    if names.any fun name ↦ name.toList.contains '=' then
      (files, .error (.conversion .illegalVariableName))
    else if (word :: arguments ++ names ++ around.environment.values ++ command.directory.parts).any
        fun w ↦ w.toList.contains '\x00' then (files, .error (.conversion .nulInWord))
    else
      let place : Except FileCause Place := do
        let (place, node) ← files.find around.directory command.directory
        if node.content == .directory then .ok place else .error .notADirectory
      match place with
      | .error cause => (files, .error (.workingDirectory ⟨cause, command.directory.toText⟩))
      | .ok place =>
        let m := Machine.start files place default
        let path := (searchPath around.environment).map Text.Octets.ofName
        match m.process? Machine.firstProcess with
        | none => (files, .error (.conversion .noFirstWord))
        | some p =>
          match findStartable ⟨m, p⟩ path (Text.Octets.ofName word) with
          | .error cause => (files, .error (.file ⟨cause, word⟩))
          | .ok path =>
            let (files, remains) := execute around files place path command
            (files, .ok remains)

/-! ## What is installed -/

/-- Devices by their names. -/
def devices : List (String × Device) := [
  ("null", .null), ("zero", .zero), ("full", .full), ("random", .random), ("urandom", .random),
  ("tty", .terminal)]

/-- Directories that are there from the start. -/
def directories : List Place := [
  ["etc"], ["home"], ["opt"], ["proc"], ["root"], ["sys"], ["usr", "lib"], ["usr", "local", "bin"],
  ["var", "log"], ["var", "tmp"]]

/-- A line about each account: its name, its number and that of its group, who has it, its home and
its program. -/
def accounts : String :=
  let people : List (String × Nat × Nat × String × String) := [
    ("daemon", 1, 1, "daemon", "/usr/sbin"), ("bin", 2, 2, "bin", "/bin"), ("sys", 3, 3, "sys", "/dev"),
    ("games", 5, 60, "games", "/usr/games"), ("man", 6, 12, "man", "/var/cache/man"),
    ("lp", 7, 7, "lp", "/var/spool/lpd"), ("mail", 8, 8, "mail", "/var/mail"),
    ("news", 9, 9, "news", "/var/spool/news"), ("uucp", 10, 10, "uucp", "/var/spool/uucp"),
    ("proxy", 13, 13, "proxy", "/bin"), ("www-data", 33, 33, "www-data", "/var/www"),
    ("backup", 34, 34, "backup", "/var/backups"),
    ("list", 38, 38, "Mailing List Manager", "/var/list"), ("irc", 39, 39, "ircd", "/run/ircd"),
    ("_apt", 42, 65534, "", "/nonexistent"), ("nobody", 65534, 65534, "nobody", "/nonexistent")]
  "root:x:0:0:root:/root:/bin/bash\n" ++ String.join (people.map fun (name, user, group, person, home) ↦
    s!"{name}:x:{user}:{group}:{person}:{home}:/usr/sbin/nologin\n" ++
      if name = "sys" then "sync:x:4:65534:sync:/bin:/bin/sync\n" else "")

/-- Puts the programs where they are looked for, and devices and directories where they are known.
-/
def install (files : FileTree) : FileTree :=
  let programs := Tools.programs.foldl (fun t (name, _) ↦
    t.plant ["usr", "bin", name] (.file (image name)) (rightsOf 7 5 5)) files
  let linked := programs.plant ["bin"] (.link "usr/bin") (rightsOf 7 7 7)
  let withDevices := devices.foldl (fun t (name, d) ↦
    t.plant ["dev", name] (.device d) (rightsOf 6 6 6)) linked
  let t := directories.foldl (fun t place ↦ t.plant place .directory FileTree.directoryRights)
    withDevices
  let t := t.plant ["tmp"] .directory 0o1777
  t.plant ["etc", "passwd"] (.file (Text.Utf8.encode accounts)) (rightsOf 6 4 4)

end RevisionGraph.Execution
