import RevisionGraph.Simulation.System.Behaviour

/-!
# Machines

A `Machine` is everything that processes share: the files, what is open, the pipes, the clock and
the processes themselves.  A `Process` is what a behaviour is surrounded by: its descriptors, its
directory and what signals do to it.

* **Open files.**  Descriptors of several processes may stand for one `OpenFile` and then share its
  position.
* **Pipes.**  What is written at one end stays in the pipe until it is read at the other.
* **Sinks.**  What is written into a sink is collected for whoever started the machine.
-/

set_option autoImplicit false

namespace RevisionGraph.System

/-! ## What is open -/

/-- What was opened. -/
inductive Target where
  | file (number : Nat)
  | directory (place : Place)
  | device (d : Device)
  | pipe (number : Nat)
  | sink (number : Nat)
  deriving DecidableEq

/-- A file that is open. -/
structure OpenFile where
  target : Target
  access : Access
  append : Bool := false
  position : Nat := 0

/-- A number by which a process knows an open file. -/
structure Descriptor where
  opened : Nat
  /-- another program does not get it -/
  own : Bool := false

/-! ## Pipes -/

/-- The bytes in a pipe: those in front, and those behind them, the newest first. -/
structure Pipe where
  front : Text.Bytes := []
  back : List Text.Bytes := []
  size : Nat := 0
  /-- how often each end was opened -/
  readers : Nat := 0
  writers : Nat := 0

namespace Pipe

/-- How many bytes a pipe holds. -/
def capacity : Nat := 65536

/-- Puts bytes into a pipe. -/
def put (p : Pipe) (bytes : Text.Bytes) : Pipe :=
  { p with back := bytes :: p.back, size := p.size + bytes.length }

/-- Takes bytes out, at most so many. -/
def take (p : Pipe) (count : Nat) : Text.Bytes × Pipe :=
  let all := if p.front.length < count then p.front ++ p.back.reverse.flatten else p.front
  let back := if p.front.length < count then [] else p.back
  let taken := all.take count
  (taken, { p with front := all.drop taken.length, back, size := p.size - taken.length })

end Pipe

/-! ## Processes -/

/-- A process. -/
structure Process where
  number : Nat
  parent : Nat
  /-- the number of the process that began its group -/
  group : Nat
  behaviour : Behaviour
  descriptors : List (Nat × Descriptor)
  directory : Place
  mask : Nat := rightsOf 0 2 2
  /-- what signals do that do not what they usually do -/
  dispositions : List (Nat × Disposition) := []
  /-- signals that were noted, oldest first -/
  arrived : List Nat := []
  /-- when a pause ends -/
  wake : Option Nat := none
  /-- a descriptor that waits for the other end of its pipe, and how often that had been opened -/
  opening : Option (Nat × Nat) := none
  /-- how many bytes of what is to be written are in their pipe -/
  written : Nat := 0
  stopped : Bool := false
  ended : Option Ending := none

namespace Process

/-- What a number stands for. -/
def descriptor? (p : Process) (fd : Nat) : Option Descriptor :=
  (p.descriptors.find? fun e ↦ e.1 == fd).map Prod.snd

/-- The process with one more number, or another meaning of it. -/
def withDescriptor (p : Process) (fd : Nat) (d : Descriptor) : Process :=
  { p with descriptors := (fd, d) :: p.descriptors.filter fun e ↦ e.1 != fd }

/-- The process without the number. -/
def withoutDescriptor (p : Process) (fd : Nat) : Process :=
  { p with descriptors := p.descriptors.filter fun e ↦ e.1 != fd }

/-- The least number from `least` on that no descriptor has. -/
def freeFrom (p : Process) (least : Nat) : Nat :=
  ((List.range (p.descriptors.length + 1)).map (· + least)).find?
    (fun fd ↦ (p.descriptor? fd).isNone) |>.getD least

/-- What a signal does to the process. -/
def disposition (p : Process) (signal : Nat) : Disposition :=
  ((p.dispositions.find? fun e ↦ e.1 == signal).map Prod.snd).getD .usual

/-- Sets what a signal does to the process. -/
def dispose (p : Process) (signal : Nat) (d : Disposition) : Process :=
  { p with dispositions := (signal, d) :: p.dispositions.filter fun e ↦ e.1 != signal }

/-- Ends a process, which leaves nothing open. -/
def finish (p : Process) (e : Ending) : Process :=
  { p with ended := some e, descriptors := [], behaviour := .ended e, stopped := false }

/-! ### Signals -/

/-- The signal that nothing withstands. -/
def killSignal : Nat := 9

/-- The signal to go on. -/
def continueSignal : Nat := 18

/-- Signals that stop a process. -/
def stopping : List Nat := [19, 20, 21, 22]

/-- Signals that do nothing unless they are noted. -/
def harmless : List Nat := [0, 17, 18, 23, 28]

/-- What a signal does to a process. -/
def receive (p : Process) (signal : Nat) : Process :=
  let p := if signal = continueSignal then { p with stopped := false } else p
  if p.ended.isSome then p
  else if signal = killSignal then p.finish (.killed signal)
  else match p.disposition signal with
    | .ignored => p
    | .noted => { p with arrived := p.arrived.filter (· != signal) ++ [signal] }
    | .usual =>
      if harmless.contains signal then p
      else if stopping.contains signal then { p with stopped := true }
      else p.finish (.killed signal)

end Process

/-! ## Machines -/

/-- A machine with its processes. -/
structure Machine where
  files : FileTree
  openFiles : List (Nat × OpenFile) := []
  pipes : List (Nat × Pipe) := []
  processes : List Process := []
  /-- microseconds since the start -/
  clock : Nat := 0
  /-- greater than the numbers of all that is open and of all pipes -/
  fresh : Nat := 0
  /-- the number of the next process -/
  nextProcess : Nat
  /-- what went into the sinks, the newest first -/
  collected : List (Nat × Text.Bytes) := []

namespace Machine

/-- The open file of a number. -/
def openFile? (m : Machine) (number : Nat) : Option OpenFile :=
  (m.openFiles.find? fun e ↦ e.1 == number).map Prod.snd

/-- Changes an open file. -/
def setOpenFile (m : Machine) (number : Nat) (f : OpenFile) : Machine :=
  { m with openFiles := m.openFiles.map fun e ↦ if e.1 == number then (number, f) else e }

/-- Adds something open and gives its number. -/
def addOpenFile (m : Machine) (f : OpenFile) : Nat × Machine :=
  (m.fresh, { m with openFiles := (m.fresh, f) :: m.openFiles, fresh := m.fresh + 1 })

/-- The pipe of a number. -/
def pipe? (m : Machine) (number : Nat) : Option Pipe :=
  (m.pipes.find? fun e ↦ e.1 == number).map Prod.snd

/-- Changes a pipe. -/
def setPipe (m : Machine) (number : Nat) (p : Pipe) : Machine :=
  { m with pipes := (number, p) :: m.pipes.filter fun e ↦ e.1 != number }

/-- What a descriptor of a process stands for. -/
def opened? (m : Machine) (p : Process) (fd : Nat) : Option (Nat × OpenFile) := do
  let d ← p.descriptor? fd
  let f ← m.openFile? d.opened
  return (d.opened, f)

/-- Some process has this open. -/
def isHeld (m : Machine) (number : Nat) : Bool :=
  m.processes.any fun p ↦ p.descriptors.any fun e ↦ e.2.opened == number

/-- Forgets what nobody has open any longer, and the pipes of which nobody has an end. -/
def sweep (m : Machine) : Machine :=
  let openFiles := m.openFiles.filter fun e ↦ m.isHeld e.1
  let pipes := m.pipes.filter fun e ↦ openFiles.any fun f ↦ f.2.target == .pipe e.1
  { m with openFiles, pipes }

/-- Some process may still write into a pipe, or read from it. -/
def hasEnd (m : Machine) (pipe : Nat) (writing : Bool) : Bool :=
  m.openFiles.any fun e ↦ e.2.target == .pipe pipe &&
    (if writing then e.2.access.writes else e.2.access.reads)

/-- Some process may still write into a sink. -/
def feeds (m : Machine) (sink : Nat) : Bool :=
  m.openFiles.any fun e ↦ e.2.target == .sink sink

/-- The process of a number. -/
def process? (m : Machine) (number : Nat) : Option Process :=
  m.processes.find? fun p ↦ p.number == number

/-- Changes a process. -/
def setProcess (m : Machine) (p : Process) : Machine :=
  { m with processes := m.processes.map fun q ↦ if q.number == p.number then p else q }

/-- The signal that tells of the end of a child. -/
def childSignal : Nat := 17

/-- What is left of a process that ended, for its parent, which is told.  Its children are nobody's.
-/
def bury (m : Machine) (p : Process) : Machine :=
  let m := match m.process? p.parent with
    | some parent => m.setProcess (parent.receive childSignal)
    | none => m
  let orphaned := m.processes.map fun q ↦ if q.parent == p.number then { q with parent := 0 } else q
  { m with processes := orphaned.filter fun q ↦ q.parent != 0 || q.ended.isNone || q.number == p.number }
    |>.sweep

/-- Puts a process back; one that ended leaves nothing open. -/
def put (m : Machine) (p : Process) : Machine :=
  let m := m.setProcess p
  if p.ended.isSome then m.bury p else m

/-- Lets a process receive a signal, if there is such a process. -/
def signal (m : Machine) (number signal : Nat) : Machine :=
  match m.process? number with
  | some p => if p.ended.isSome then m else m.put (p.receive signal)
  | none => m

/-- The time of day at the start, in microseconds: a little later than that of the files that are
there. -/
def epoch : Nat := FileTree.beginning + 20000

/-- Files are dated in steps of so many microseconds. -/
def grain : Nat := 4000

/-- Lets time pass. -/
def spend (m : Machine) (microseconds : Nat) : Machine :=
  let clock := m.clock + microseconds
  { m with clock, files.now := epoch + clock / grain * grain }

end Machine

end RevisionGraph.System
