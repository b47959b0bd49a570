import RevisionGraph.Simulation.Shell.Run

/-!
# Starting a shell

`shell` is the program that a shell is: it runs the script in an argument, in a file or in its
input.  A script in the input is read in blocks, so that what stands behind a block is still there
for the commands of the script.
-/

set_option autoImplicit false

namespace RevisionGraph.Shell

open RevisionGraph.System
open ShellM

/-- The greatest depth of calls. -/
def depthLimit : Nat := 200000

/-- How much of its input a shell reads at once. -/
def blockLength : Nat := 8192

/-- What the variables of a shell are before it sees those that it is given. -/
def firstVariables (parent : Nat) : List (String × Variable) :=
  [("IFS", " \t\n"), ("PATH", ":".intercalate commandPath), ("PS1", "# "), ("PS2", "> "),
    ("PS4", "+ "), ("OPTIND", "1"), ("PPID", toString parent)].map fun (name, value) ↦
    (name, { value := some value })

/-- The directory of a shell under the name that its caller knew it by, if that is still right. -/
def startDirectory (call : Call) : Act String := do
  let here ← Act.ask .directory
  match call.value? "PWD" with
  | some path =>
    if path.startsWith "/" then
      match ← Act.ask (.look path true), ← Act.ask (.look "." true) with
      | .ok a, .ok b => return if a.number = b.number then path else here.getD ""
      | _, _ => return here.getD ""
    else return here.getD ""
  | none => return here.getD ""

/-- The state that a shell starts in. -/
def startState (launch : Launch) (call : Call) : Act State := do
  let number ← Act.ask .self
  let parent ← Act.ask .parent
  let directory ← startDirectory call
  let first := OrderedMap.ofList (firstVariables parent)
  let held := (call.environment.filter fun v ↦ isName v.1).foldl (fun vs v ↦
    let own := if ["PPID", "OPTIND", "IFS"].contains v.1 then vs.find? v.1 else none
    vs.insert v.1 { value := (own.bind Variable.value).or (some v.2), exported := true }) first
  let held := held.insert "PWD" { value := some directory, exported := true }
  return { launch, number, held, directory }

/-- Runs the lines of the input. -/
def runInput : ShellM Unit := do
  let _ ← iterate (({ rest := [] } : Source), false) fun (source, complete) ↦ do
    let source := { source with aliases := (← get).aliases }
    let (line, after) := source.readLine
    if after.touched && !complete then
      match ← ask (.read 0 blockLength true) with
      | .ok (b :: bytes) =>
        let text := (Text.Octets.ofBytes (b :: bytes)).toList
        return (({ source with rest := source.rest ++ text }, false), true)
      | _ => return ((source, true), true)
    else
      showLines source after
      return ((after, complete), ← runLine depthLimit {} line after)
  return

/-- Runs the script in a file, which then is the name of the shell. -/
def runFile (path : String) (arguments : List String) : ShellM Unit := do
  match ← ask (.openFile path .toRead) with
  | .error cause =>
    modify fun s ↦ { s with line := 0 }
    abort s!"cannot open {path}: {openReason false cause}"
  | .ok fd =>
    let bytes ← readAll fd
    let _ ← ask (.close fd)
    modify fun s ↦ { s with name := path, arguments }
    runText depthLimit {} true (Text.Octets.ofBytes bytes)

/-- A shell. -/
def shell : Program := fun launch call ↦ do
  let start ← startState launch call
  let start := { start with name := call.name }
  let refuse (why : String) : ShellM Unit := do
    modify fun s ↦ { s with line := 0 }
    abort why
  let body : ShellM Unit := do
    match Selection.read true call.arguments with
    | .error why => refuse why
    | .ok chosen =>
      let on := Switch.turn [] chosen.switches
      let switches := on.filter fun c ↦ c ≠ 'c' && c ≠ 'l'
      modify fun s ↦ { s with switches }
      match on.contains 'c', chosen.operands with
      | true, [] => refuse "-c requires an argument"
      | true, source :: rest =>
        modify fun s ↦ { s with name := rest.headD call.name, arguments := rest.drop 1 }
        runText depthLimit {} false source
        if on.contains 's' then runInput
      | false, [] =>
        modify fun s ↦ { s with switches := if on.contains 's' then switches else 's' :: switches }
        runInput
      | false, file :: rest =>
        if on.contains 's' then
          modify fun s ↦ { s with arguments := chosen.operands }
          runInput
        else runFile file rest
  match ← ((conclude depthLimit body).run).run start with
  | (.ok status, _) => return status % 256
  | (.error _, s) => return s.status % 256

end RevisionGraph.Shell
