import RevisionGraph.Simulation.System.Service

/-!
# Running processes

`Machine.run` lets the processes of a machine take turns until the first of them has ended and
nobody feeds the sinks any longer, or until its time is up.

* **Turns.**  Processes take turns in the order in which they were started.  A turn ends when the
  process has to wait, when it ends, or after `patience` requests.
* **Time.**  Requests take a little time, a fork and a new program more.  When all processes wait,
  time goes on to the end of the first pause.
-/

set_option autoImplicit false

namespace RevisionGraph.System

namespace Machine

/-- Microseconds that a request takes. -/
def pace : Request → Nat
  | .renew => 500
  | .write _ bytes => 1 + bytes.length / 64
  | _ => 1

/-- Microseconds that a fork takes. -/
def forkPace : Nat := 300

/-- Starts a copy of a process with a behaviour of its own. -/
def fork (m : Machine) (p : Process) (child : Behaviour) : Nat × Machine :=
  let copy : Process := { p with
    number := m.nextProcess, parent := p.number, behaviour := child
    arrived := [], wake := none, opening := none, written := 0 }
  (copy.number, { m with nextProcess := m.nextProcess + 1, processes := m.processes ++ [copy] })

/-- Takes one step of a process; the answer says whether it went on. -/
def step (m : Machine) (p : Process) : Machine × Bool :=
  match p.behaviour with
  | .ended e => (m.put (p.finish e), false)
  | .forking child next =>
    let (number, m) := m.fork p child
    ((m.spend forkPace).put { p with behaviour := next number }, true)
  | .asking r next =>
    match Scene.serve ⟨m, p⟩ r with
    | (some reply, s) =>
      let p := s.process
      let p := if p.ended.isSome then p else { p with behaviour := next reply }
      ((s.machine.spend (pace r)).put p, true)
    | (none, s) => (s.machine.put s.process, false)

/-- How many requests a turn may have. -/
def patience : Nat := 500

/-- Lets a process take its turn; the answer says whether it did anything. -/
def turnFor : Nat → Machine → Nat → Bool → Machine × Bool
  | 0, m, _, moved => (m, moved)
  | n + 1, m, number, moved =>
    match m.process? number with
    | none => (m, moved)
    | some p =>
      if p.ended.isSome || p.stopped then (m, moved)
      else
        let (m, more) := m.step p
        if more then m.turnFor n number true
        else (m, moved || p.behaviour matches .ended _)

/-- Lets every process take its turn. -/
def round (m : Machine) : Machine × Bool :=
  (m.processes.map Process.number).foldl
    (fun (m, moved) number ↦
      let (m, again) := m.turnFor patience number false
      (m, moved || again)) (m, false)

/-- When the first pause ends. -/
def nextWake? (m : Machine) : Option Nat :=
  (m.processes.filterMap fun p ↦ if p.ended.isSome || p.stopped then none else p.wake).min?

/-- The sinks that the first process starts with. -/
def outputSink : Nat := 1

/-- Where the standard error output goes. -/
def errorSink : Nat := 2

/-- The process that a machine is run for. -/
def firstProcess : Nat := 4242

/-- The first process has ended and all that it will have written is there. -/
def isDone (m : Machine) : Bool :=
  ((m.process? firstProcess).all fun p ↦ p.ended.isSome) && !m.feeds outputSink &&
    !m.feeds errorSink

/-- How long others may go on when all is done, in microseconds. -/
def aftermath : Nat := 1000

/-- Runs a machine; the answer says whether it was done before the deadline. -/
def runFor : Nat → Machine → (deadline done : Option Nat) → Machine × Bool
  | 0, m, _, _ => (m, false)
  | n + 1, m, deadline, done =>
    let (m, moved) := m.round
    let done := if m.isDone then done.or (some m.clock) else none
    if done.any fun t ↦ !moved || t + aftermath < m.clock then (m, true)
    else if deadline.any (· < m.clock) then (m, done.isSome)
    else if moved then m.runFor n deadline done
    else match m.nextWake? with
      | none => (m, false)
      | some time =>
        if deadline.any (· < time) then (m, false)
        else (m.spend (time - m.clock)).runFor n deadline done

/-- Runs a machine up to a deadline. -/
def run (m : Machine) (deadline : Option Nat) : Machine × Bool := m.runFor boundless deadline none

/-- A machine with one process, which reads nothing and writes into the sinks. -/
def start (files : FileTree) (directory : Place) (behaviour : Behaviour) : Machine :=
  let open3 : List (Nat × OpenFile) := [
    (0, { target := .device .null, access := .reading }),
    (1, { target := .sink outputSink, access := .writing }),
    (2, { target := .sink errorSink, access := .writing })]
  let p : Process := {
    number := firstProcess, parent := firstProcess - 1, group := firstProcess, behaviour, directory
    descriptors := [(0, ⟨0, false⟩), (1, ⟨1, false⟩), (2, ⟨2, false⟩)] }
  { files, openFiles := open3, processes := [p], fresh := 3, nextProcess := firstProcess + 1 }

/-- What went into a sink. -/
def collectedIn (m : Machine) (sink : Nat) : Text.Bytes :=
  (m.collected.reverse.filterMap fun e ↦ if e.1 == sink then some e.2 else none).flatten

/-- How the first process ended. -/
def ending? (m : Machine) : Option Ending := (m.process? firstProcess).bind Process.ended

end Machine

end RevisionGraph.System
