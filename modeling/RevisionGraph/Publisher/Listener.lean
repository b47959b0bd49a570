import RevisionGraph.Publisher.Basic

/-!
# Listeners

Who hands a message over may ask to be told how it fared.  Whether that happens, and how often, is a
matter of the ways out of a `send`: each of them tells the listener by itself, and a publisher that
is closed tells nobody.  By `Publisher.sendTelling_eq` the listener is told of the delivery that
`send` gives, whatever the `Weather`.
-/

set_option autoImplicit false

namespace RevisionGraph

/-- Is told how a message fared, and changes a state of its own; there may be no listener. -/
abbrev Listener (σ : Type) := Option (Delivery → σ → σ)

/-- Tells the listener, if there is one. -/
def Listener.tell {σ : Type} (listener : Listener σ) (d : Delivery) (s : σ) : σ :=
  match listener with
  | some hear => hear d s
  | none => s

variable {σ : Type}

/-- Hands a message over; with the result comes what the listener makes of its state. -/
def MemoryPublisher.sendTelling (p : MemoryPublisher) (m : Message) (listener : Listener σ)
    (s : σ) : MemoryPublisher × σ × Result Unit :=
  if p.closed then (p, s, .error (.publisherClosed none))
  else match p.obstacle with
    | some cause => (p, listener.tell (.failed cause) s, .ok ())
    | none => ({ p with messages := p.messages ++ [m] }, listener.tell .delivered s, .ok ())

/-- Hands a message over; with the result comes what the listener makes of its state. -/
def FilePublisher.sendTelling (p : FilePublisher) (d : Disk) (cwd : Place) (m : Message)
    (listener : Listener σ) (s : σ) : FilePublisher × Disk × σ × Result Unit :=
  if p.closed then (p, d, s, .error (.publisherClosed (some p.path.toText)))
  else match p.append d cwd m with
    | (p, d, some e) =>
      if e.isFromSystem then (p, d, listener.tell (.failed e) s, .ok ()) else (p, d, s, .error e)
    | (p, d, none) => (p, d, listener.tell .delivered s, .ok ())

namespace Publisher

/-- Hands a message over; with the result comes what the listener makes of its state. -/
def sendTelling (p : Publisher) (d : Disk) (cwd : Place) (m : Message) (listener : Listener σ)
    (s : σ) : Publisher × Disk × σ × Result Unit :=
  match p with
  | .memory p =>
    let (p, s, result) := p.sendTelling m listener s
    (.memory p, d, s, result)
  | .file p =>
    let (p, d, s, result) := p.sendTelling d cwd m listener s
    (.file p, d, s, result)

/-- **The listener is told of the delivery**, and of nothing if there is none. -/
theorem sendTelling_eq (p : Publisher) (d : Disk) (cwd : Place) (m : Message)
    (listener : Listener σ) (s : σ) :
    p.sendTelling d cwd m listener s =
      match p.send d cwd m with
      | (p, d, .ok delivery) => (p, d, listener.tell delivery s, .ok ())
      | (p, d, .error e) => (p, d, s, .error e) := by
  cases p with
  | memory p =>
    rw [sendTelling, MemoryPublisher.sendTelling, send, MemoryPublisher.send]
    cases p.closed with
    | true => rfl
    | false => cases p.obstacle <;> rfl
  | file p =>
    rw [sendTelling, FilePublisher.sendTelling, send, FilePublisher.send]
    cases p.closed with
    | true => rfl
    | false =>
      simp only [Bool.false_eq_true, if_false]
      rcases p.append d cwd m with ⟨p', d', _ | e⟩
      · rfl
      · cases he : e.isFromSystem <;> simp [he]

end Publisher

end RevisionGraph
