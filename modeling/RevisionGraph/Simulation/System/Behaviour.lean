import RevisionGraph.Files.Tree
import RevisionGraph.Simulation.Text.Octets

/-!
# What processes do

A process does nothing by itself but compute: for all else it asks the system.  A `Behaviour` is
what a process does from some point on, as a tree: it ends, or makes a `Request` and goes on with
the reply, or starts another process and goes on with its number.

`Act` is a step of a process, known by what it makes of the behaviour that follows it; steps put
together cost nothing to take apart again.  `ask`, `fork` and `leave` are the steps there are, and
`repeatFor` makes loops of them.

Paths and other texts are texts of bytes (`Text.Octets`).
-/

set_option autoImplicit false

namespace RevisionGraph.System

/-! ## Requests -/

/-- What the system may refuse. -/
abbrev Attempt (α : Type) := Except FileCause α

/-- What an open file is for. -/
inductive Access where
  | reading
  | writing
  | both
  deriving DecidableEq, Repr

namespace Access

/-- The file can be read. -/
def reads (a : Access) : Bool := a != .writing

/-- The file can be written to. -/
def writes (a : Access) : Bool := a != .reading

end Access

/-- How a file is opened. -/
structure Opening where
  access : Access
  /-- it is made if it is not there -/
  create : Bool := false
  /-- it must not be there -/
  exclusive : Bool := false
  truncate : Bool := false
  append : Bool := false

/-- How a file is opened that is written anew. -/
def Opening.anew : Opening := { access := .writing, create := true, truncate := true }

/-- Opens a file to read it. -/
def Opening.toRead : Opening := { access := .reading }

/-- What a node looks like. -/
inductive Kind where
  | directory
  | file
  | link
  | pipe
  | device
  deriving DecidableEq, Repr

/-- What can be learnt of a node without opening it. -/
structure Look where
  kind : Kind
  size : Nat
  rights : Nat
  number : Nat
  /-- how many names it has -/
  names : Nat
  time : Nat
  deriving DecidableEq, Repr

/-- Where a position counts from. -/
inductive Origin where
  | start
  | current
  | finish
  deriving DecidableEq, Repr

/-- How a process ended. -/
inductive Ending where
  | exited (status : Nat)
  | killed (signal : Nat)
  deriving DecidableEq, Repr

/-- What a signal does to a process: what it usually does, nothing, or it is noted. -/
inductive Disposition where
  | usual
  | ignored
  | noted
  deriving DecidableEq, Repr

/-- What a program can ask a system for. -/
inductive Request where
  | openFile (path : String) (how : Opening)
  | close (fd : Nat)
  /-- makes a second descriptor of what a first one stands for -/
  | duplicate (fd target : Nat)
  /-- the same on the least free descriptor from some number on, for this program alone -/
  | keep (fd least : Nat)
  /-- reads at least one byte, if any is still to come; a signal may break a wait off -/
  | read (fd count : Nat) (patient : Bool)
  | write (fd : Nat) (bytes : Text.Bytes)
  | seek (fd : Nat) (origin : Origin) (offset : Int)
  | resize (path : String) (size : Nat)
  | look (path : String) (follow : Bool)
  | lookAt (fd : Nat)
  | list (path : String)
  | makeDirectory (path : String) (rights : Nat)
  | makePipe (path : String) (rights : Nat)
  | makeLink (target path : String)
  | addName (path other : String)
  | readLink (path : String)
  | remove (path : String)
  | removeDirectory (path : String)
  | rename (path other : String)
  | setRights (path : String) (rights : Nat)
  | setTime (path : String) (time : Option Nat)
  | enter (path : String)
  | directory
  /-- the rights that new files do not get; the old ones are the reply -/
  | mask (new : Option Nat)
  | pipe
  /-- waits for a child that ended, or only asks for one -/
  | await (waits patient : Bool)
  /-- sends a signal to a process, to its own group or to the group of a negative number -/
  | signal (number : Int) (signal : Nat)
  /-- begins a group of processes -/
  | lead
  | dispose (signal : Nat) (d : Disposition)
  | disposition (signal : Nat)
  /-- takes the signals that were noted -/
  | arrived
  | pause (microseconds : Nat)
  | clock
  | self
  | parent
  /-- a new program begins -/
  | renew
  /-- time for some work -/
  | work (microseconds : Nat)

/-- What comes back from a request. -/
def Request.Reply : Request → Type
  | .openFile _ _ => Attempt Nat
  | .keep _ _ => Attempt Nat
  | .read _ _ _ => Attempt Text.Bytes
  | .seek _ _ _ => Attempt Nat
  | .look _ _ => Attempt Look
  | .lookAt _ => Attempt Look
  | .list _ => Attempt (List String)
  | .readLink _ => Attempt String
  | .directory => Option String
  | .mask _ => Nat
  | .pipe => Nat × Nat
  | .await _ _ => Attempt (Option (Nat × Ending))
  | .disposition _ => Disposition
  | .arrived => List Nat
  | .clock => Nat
  | .self => Nat
  | .parent => Nat
  | .pause _ => Unit
  | .renew => Unit
  | .work _ => Unit
  | .lead => Unit
  | .dispose _ _ => Unit
  | _ => Attempt Unit

/-! ## Behaviours -/

/-- What a process does next. -/
inductive Behaviour where
  | ended (e : Ending)
  | asking (r : Request) (next : r.Reply → Behaviour)
  | forking (child : Behaviour) (next : Nat → Behaviour)

instance : Inhabited Behaviour := ⟨.ended (.exited 0)⟩

/-- A step of a process that gives a value. -/
def Act (α : Type) : Type := (α → Behaviour) → Behaviour

namespace Act

variable {α : Type}

instance : Monad Act where
  pure a next := next a
  bind x f next := x fun a ↦ f a next

instance : LawfulMonad Act := LawfulMonad.mk' Act
  (fun _ ↦ rfl) (fun _ _ ↦ rfl) (fun _ _ _ ↦ rfl)

instance : Inhabited (Act α) := ⟨fun _ ↦ default⟩

/-- Asks the system for something. -/
def ask (r : Request) : Act r.Reply := fun next ↦ .asking r next

/-- Ends the process. -/
def leave (status : Nat) : Act α := fun _ ↦ .ended (.exited status)

/-- Ends the process as a signal does. -/
def die (signal : Nat) : Act α := fun _ ↦ .ended (.killed signal)

/-- The behaviour of a process that takes a step and ends with its status. -/
def behaviour (a : Act Nat) : Behaviour := a fun status ↦ .ended (.exited status)

/-- Starts another process and gives its number. -/
def fork (child : Act Nat) : Act Nat := fun next ↦ .forking child.behaviour next

end Act

/-! ## Loops -/

/-- More rounds than any process lives to make. -/
def boundless : Nat := 10 ^ 15

/-- Takes a step again and again as long as it says so, at most so many times. -/
def repeatFor {m : Type → Type} [Monad m] : Nat → m Bool → m Unit
  | 0, _ => pure ()
  | n + 1, step => do if ← step then repeatFor n step

/-- Takes a step again and again as long as it says so. -/
def whileTrue {m : Type → Type} [Monad m] (step : m Bool) : m Unit := repeatFor boundless step

/-- Carries a value from round to round as long as a step says so. -/
def iterateFor {m : Type → Type} [Monad m] {σ : Type} : Nat → σ → (σ → m (σ × Bool)) → m σ
  | 0, s, _ => pure s
  | n + 1, s, step => do
    let (s, more) ← step s
    if more then iterateFor n s step else pure s

/-- Repeats a step as long as it says so. -/
def iterate {m : Type → Type} [Monad m] {σ : Type} (s : σ) (step : σ → m (σ × Bool)) : m σ :=
  iterateFor boundless s step

end RevisionGraph.System
