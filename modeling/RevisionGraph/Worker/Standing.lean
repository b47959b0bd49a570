import RevisionGraph.Worker.Basic

/-!
# The standing of a worker

After each record a worker can be asked how it went: its `Standing` is the text of an error, which
is empty if there was none, and whether the record was processed.

A record starts with a clean standing.  Errors come in two ways: the delivery of a message fails,
and then the revision is returned all the same; or a step on the way raises a fault, and then
nothing is returned.  Only when there is no error by then was the record processed.

An error is noted by its text.  The faults of this library have one, but a producer or a publisher
may raise what it likes, and asking that for its text can raise a fault in turn: this is what a
`Speech` tells of.
-/

set_option autoImplicit false

namespace RevisionGraph

/-- Whether faults can be asked for their texts. -/
structure Speech where
  /-- what asking a fault for its text raises, if it does not give `Fault.message` -/
  failure? : Fault → Option Fault
  /-- what gets out of a span when a fault was raised there; the span asks for the text as well -/
  leaving : Fault → Fault
  leaving_eq : ∀ {e}, failure? e = none → leaving e = e
  /-- only what somebody else raises may have no text -/
  isForeign : ∀ {e}, failure? e ≠ none → ∃ kind text, e = .foreign kind text

/-- All faults have texts. -/
def Speech.clear : Speech where
  failure? _ := none
  leaving e := e
  leaving_eq _ := rfl
  isForeign h := absurd rfl h

/-- What can be asked of a worker about the last record. -/
structure Standing where
  /-- what went wrong with the last record, as an object for other programs -/
  error : String := ""
  processed : Bool := false
  deriving DecidableEq

namespace Standing

/-- Notes an error by its text. -/
def note (speech : Speech) (x : Standing) (e : Fault) : Result Standing :=
  match speech.failure? e with
  | some failure => .error failure
  | none => .ok { x with error := (Consumption.failureJson e).write .spaced }

/-- Notes a fault that was raised; nothing is returned.  A fault that comes of this gets out. -/
def giveUp (speech : Speech) (x : Standing) (e : Fault) : Standing × Result (Option Revision) :=
  match x.note speech (speech.leaving e) with
  | .ok x => (x, .ok none)
  | .error e => (x, .error e)

/-- What is returned for what became of a record.  A failed delivery is noted while the message is
handed over, so that a fault that comes of this is one that was raised on the way. -/
def settle (speech : Speech) (x : Standing) :
    Result (Revision × Delivery) → Standing × Result (Option Revision)
  | .ok (r, .delivered) => (x, .ok (some r))
  | .ok (r, .failed cause) => match x.note speech cause with
    | .ok x => (x, .ok (some r))
    | .error e => x.giveUp speech e
  | .error e => x.giveUp speech e

/-- A record was processed if there is no error by now. -/
def conclude (x : Standing) : Standing :=
  if x.error.isEmpty then { x with processed := true } else x

end Standing

namespace Worker

variable {σ : Type}

/-- Deals with a record and keeps the standing; a fault that gets out leaves the standing as it is
by then. -/
def attend (w : Worker σ) (speech : Speech) (x : Standing) (s : State σ) (text : String)
    (publishing : Bool) : Standing × State σ × Result (Option Revision) :=
  let x : Standing := { x with error := "", processed := false }
  let (s, result, _) := w.handle s text publishing
  match x.settle speech result with
  | (x, .ok r?) => (x.conclude, s, .ok r?)
  | (x, .error e) => (x, s, .error e)

end Worker

end RevisionGraph
