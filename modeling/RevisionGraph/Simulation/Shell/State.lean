import RevisionGraph.OrderedMap
import RevisionGraph.Simulation.Shell.Reader
import RevisionGraph.Simulation.Shell.Signal
import RevisionGraph.Simulation.Shell.Switches
import RevisionGraph.Simulation.System.Program

/-!
# The state of a shell

A shell has variables, functions, aliases, switches, arguments, traps and the processes that it has
started.  `ShellM` is a step of a shell: it changes the state, asks the system, and either gives a
value or breaks off with a `Break`.

A failure of the language itself is a `Break.fault`; it ends the shell unless it happens inside a
command that is no part of the language.
-/

set_option autoImplicit false

namespace RevisionGraph.Shell

open RevisionGraph.System

/-- A variable. -/
structure Variable where
  /-- nothing if only a mark was set -/
  value : Option String := none
  /-- programs see it -/
  exported : Bool := false
  constant : Bool := false

/-- Processes that were started together. -/
structure Job where
  /-- the number under which the shell knows it -/
  index : Nat
  processes : List (Nat × Option Ending)
  /-- a command has waited for it -/
  awaited : Bool := false

namespace Job

/-- All processes of the job have ended. -/
def isDone (j : Job) : Bool := j.processes.all fun p ↦ p.2.isSome

/-- The status that stands for how a process ended. -/
def statusOf : Ending → Nat
  | .exited status => status
  | .killed signal => 128 + signal

/-- The status of the last process. -/
def status (j : Job) : Nat := ((j.processes.getLast?.bind Prod.snd).map statusOf).getD 0

end Job

/-- What a local name hides. -/
inductive Hidden where
  | variable (name : String) (old : Option Variable)
  | switches (old : List Char)

/-- What a shell knows. -/
structure State where
  launch : Launch
  /-- the number of the shell that was started first -/
  number : Nat := 0
  held : OrderedMap String Variable := .empty
  functions : List (String × Script) := []
  aliases : List (String × String) := []
  /-- the name under which the shell was called -/
  name : String := "sh"
  arguments : List String := []
  /-- letters of the switches that are on -/
  switches : List Char := []
  /-- the line of the running command -/
  line : Nat := 1
  /-- the command of the shell that is running; what the shell says starts with it -/
  command : Option String := none
  status : Nat := 0
  /-- the status of the last substituted command -/
  substituted : Nat := 0
  /-- the status from before a trap runs -/
  kept : Option Nat := none
  /-- how many loops are running -/
  loops : Nat := 0
  /-- what the local variables of running functions hide, one list each, the newest first -/
  hidden : List (List Hidden) := []
  /-- the directory as the shell came to it -/
  directory : String := ""
  jobs : List Job := []
  /-- the last process in the background -/
  lastBackground : Option Nat := none
  /-- what runs on signals, zero being the end of the shell -/
  traps : List (Nat × String) := []
  /-- what is shown before a command is being made -/
  tracing : Bool := false
  /-- which argument `getopts` reads next -/
  optionIndex : Nat := 1
  /-- how far it has come in the one before -/
  letterIndex : Option Nat := none
  /-- where programs were found -/
  hashed : List (String × String) := []
  /-- something could not be printed -/
  unprinted : Bool := false
  /-- signals that have arrived -/
  pending : List Nat := []

/-- Why a script is left before its end. -/
inductive Break where
  /-- the shell was told to end -/
  | exit
  /-- the shell has come to its end -/
  | finish
  | fault
  /-- out of so many loops -/
  | stopLoop (levels : Nat)
  | nextRound (levels : Nat)
  | returned
  deriving DecidableEq, Repr

/-- What a shell does. -/
abbrev ShellM := ExceptT Break (StateT State Act)

namespace ShellM

/-- Acts as any program does. -/
def act {α : Type} (a : Act α) : ShellM α := ExceptT.lift (StateT.lift a)

/-- Asks the system for something. -/
def ask (r : Request) : ShellM r.Reply := act (Act.ask r)

/-- Runs a step and gives how it ended instead of breaking off. -/
def outcome {α : Type} (a : ShellM α) : ShellM (Except Break α) :=
  ExceptT.mk do return .ok (← a.run)

/-- Runs a step and something behind it, however it ends. -/
def andAfter {α : Type} (a : ShellM α) (after : ShellM Unit) : ShellM α := do
  let result ← outcome a
  after
  match result with
  | .ok x => return x
  | .error b => throw b

/-- Sets the status of the last command. -/
def setStatus (status : Nat) : ShellM Unit := modify fun s ↦ { s with status }

/-- The switch is on. -/
def isOn (switch : Char) : ShellM Bool := do return (← get).switches.contains switch

/-! ## Writing -/

/-- Writes to a descriptor. -/
def emit (fd : Nat) (text : String) : ShellM (Attempt Unit) := do
  if text.isEmpty then return .ok ()
  ask (.write fd (Text.Octets.toBytes text))

/-- Writes a line about a failure. -/
def complain (text : String) : ShellM Unit := do
  let _ ← emit 2 (text ++ "\n")

/-- Writes a line about a failure of the shell itself. -/
def warn (text : String) : ShellM Unit := do
  let s ← get
  let speaker := s.command.elim "" (· ++ ": ")
  complain s!"{s.name}: {s.line}: {speaker}{text}"

/-- A failure that ends what is going on. -/
def abort {α : Type} (text : String) : ShellM α := do
  warn text
  setStatus 2
  throw .fault

/-- Prints for a command of the shell. -/
def print (text : String) : ShellM Unit := do
  if (← emit 1 text) matches .error _ then modify fun s ↦ { s with unprinted := true }

/-! ## Variables -/

/-- The variable that is held, if there is one. -/
def held? (name : String) : ShellM (Option Variable) := do return (← get).held.find? name

/-- The value of a variable that has one. -/
def valueOf? (name : String) : ShellM (Option String) := do
  return (← held? name).bind Variable.value

/-- Holds a variable, or no more. -/
def putVariable (name : String) (v : Option Variable) : ShellM Unit := modify fun s ↦
  { s with held := match v with
    | some v => s.held.insert name v
    | none => s.held.erase name }

/-- What a shell keeps beside its variables goes with them: where programs are, and how far the
reading of options has come. -/
def noteChange (name : String) (value : Option String) : ShellM Unit := do
  if name = "OPTIND" then
    let digits := (value.getD "").toList
    let index := if digits.all Char.isDigit then Nat.ofDigitChars 10 digits 0 else 1
    modify fun s ↦ { s with optionIndex := max 1 index, letterIndex := none }
  if name = "PATH" then modify fun s ↦ { s with hashed := [] }

/-- Gives a variable a value. -/
def setVariable (name value : String) : ShellM Unit := do
  let old := (← held? name).getD {}
  if old.constant then abort s!"{name}: is read only"
  let exported := old.exported || (← isOn 'a')
  putVariable name (some { old with value := some value, exported })
  noteChange name (some value)

/-- Changes a variable in some way. -/
def modifyVariable (name : String) (f : Variable → Variable) : ShellM Unit := do
  putVariable name (some (f ((← held? name).getD {})))

/-- Shows a variable to programs. -/
def exportVariable (name : String) : ShellM Unit :=
  modifyVariable name fun v ↦ { v with exported := true }

/-- How many buckets a shell keeps its variables in. -/
def buckets : Nat := 39

/-- The bucket of a name: sixteen times its first byte and the sum of all. -/
def bucket (name : String) : Nat :=
  let bytes := (Text.Octets.toBytes name).map UInt8.toNat
  (16 * bytes.headD 0 + bytes.sum) % buckets

/-- The variables that a shell has from its start, which come first in their buckets. -/
def ownVariables : List String := ["PATH", "IFS", "PS1", "PS2", "PS4", "OPTIND"]

/-- A shell hands variables over bucket by bucket. -/
def isHandedBefore (a b : String × String) : Bool :=
  bucket a.1 < bucket b.1 ||
    (bucket a.1 == bucket b.1 && (ownVariables.contains a.1 || !ownVariables.contains b.1))

/-- Takes the value of a variable away; of its marks only those of a shell's own variables stay. -/
def removeVariable (name : String) : ShellM Unit := do
  match ← held? name with
  | none => return
  | some v =>
    if v.constant then abort s!"{name}: is read only"
    noteChange name none
    putVariable name (if ownVariables.contains name then some { v with value := none } else none)

/-- Refuses what is no name. -/
def checkName (name : String) : ShellM Unit := do
  if !isName name then abort s!"{name}: bad variable name"

/-- The variables that programs see. -/
def environment : ShellM (List (String × String)) := do
  let seen := (← get).held.entries.filterMap fun (name, v) ↦
    if v.exported then v.value.map (name, ·) else none
  return seen.mergeSort isHandedBefore

/-! ## Local variables -/

/-- Remembers something for the end of a function or a command. -/
def hide (h : Hidden) : ShellM Unit := modify fun s ↦
  { s with hidden := match s.hidden with
    | frame :: more => (h :: frame) :: more
    | [] => [] }

/-- Hides a variable up to the end of a function. -/
def hideVariable (name : String) : ShellM Unit := do
  hide (.variable name (← held? name))

/-- Runs a step whose local variables are given up behind it. -/
def withLocals {α : Type} (body : ShellM α) : ShellM α := do
  modify fun s ↦ { s with hidden := [] :: s.hidden }
  andAfter body do
    let s ← get
    set { s with hidden := s.hidden.drop 1 }
    (s.hidden.headD []).forM fun
      | .variable name old => do
        putVariable name old
        noteChange name (old.bind Variable.value)
      | .switches old => modify fun s ↦ { s with switches := old }

/-- Runs a step under the name of a command of the shell. -/
def speakingAs {α : Type} (command : Option String) (body : ShellM α) : ShellM α := do
  let before := (← get).command
  modify fun s ↦ { s with command }
  andAfter body (modify fun s ↦ { s with command := before })

end ShellM

end RevisionGraph.Shell
