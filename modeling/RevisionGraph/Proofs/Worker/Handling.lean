import RevisionGraph.Proofs.Maven.Record
import RevisionGraph.Proofs.Revision.NormalForm
import RevisionGraph.Worker.Basic

/-!
# How a worker handles a record

A record goes through three hands: its text is read, the producer makes a call graph of the release,
and the call graph is handed over to the publisher.

* **What is left.**  `afterMaking` is the state once the producer is done, `handOver` the state once
  the publisher is, and `delivery` how the message fares there.
* **What is given.**  `handle_of_unannounced` and `handle_of_announced` deal with the first two
  hands, `dispatch_eq` with the third.
* **The record.**  `making` is what the first two hands make of a record and `messageOf` the message
  for the third; `consume_eq_of_making` says that this is all there is to a record.
* **Publishers in memory.**  `delivery_of_open` and `publisher_handOver`: they take messages in
  order.
-/

set_option autoImplicit false

namespace RevisionGraph

open Result

namespace MemoryPublisher

theorem send_of_open (p : MemoryPublisher) (m : Message) (hopen : p.closed = false)
    (hfree : p.obstacle = none) :
    p.send m = ({ p with messages := p.messages ++ [m] }, .ok .delivered) := by
  rw [send, hopen, hfree]
  rfl

theorem send_of_delivered (p : MemoryPublisher) {m : Message}
    (h : (p.send m).2 = .ok .delivered) :
    p.send m = ({ p with messages := p.messages ++ [m] }, .ok .delivered) := by
  rw [send] at h
  split at h
  · cases h
  · next hopen =>
    split at h
    · cases h
    · next hfree => exact p.send_of_open m (Bool.eq_false_iff.mpr hopen) hfree

end MemoryPublisher

namespace Worker

variable {σ : Type} {w : Worker σ} {s : State σ}

/-! ## What is left -/

/-- What is left once the call graph of a record was made, or could not be. -/
def afterMaking (w : Worker σ) (s : State σ) (text : String) : State σ :=
  match ReleaseRecord.announced text with
  | .error _ => s
  | .ok (c, time) => { s with site := (w.producer.produce s.site c time).1 }

/-- How a message fares that is handed over. -/
def delivery (w : Worker σ) (s : State σ) (m : Message) : Result Delivery :=
  (s.publisher.send s.site.files.disk w.directory m).2.2

/-- What is left once the message was handed over, if there is one. -/
def handOver (w : Worker σ) (s : State σ) : Option Message → State σ
  | none => s
  | some m =>
    let (publisher, d, _) := s.publisher.send s.site.files.disk w.directory m
    ⟨{ s.site with files := d.files }, publisher⟩

theorem publisher_afterMaking (s : State σ) (text : String) :
    (w.afterMaking s text).publisher = s.publisher := by
  rw [afterMaking]
  split <;> rfl

/-! ## Publishers in memory -/

/-- An open publisher in memory delivers what it is handed over, unless something is in the way. -/
theorem delivery_of_open {p : MemoryPublisher} (hs : s.publisher = .memory p)
    (hopen : p.closed = false) (hfree : p.obstacle = none) (m : Message) :
    w.delivery s m = .ok .delivered := by
  rw [delivery, hs, Publisher.send, p.send_of_open m hopen hfree]

/-- A message that is delivered comes last in memory. -/
theorem publisher_handOver {p : MemoryPublisher} (hs : s.publisher = .memory p) {m : Message}
    (hm : w.delivery s m = .ok .delivered) :
    (w.handOver s (some m)).publisher = .memory { p with messages := p.messages ++ [m] } := by
  rw [delivery, hs, Publisher.send] at hm
  rw [handOver, hs, Publisher.send]
  simp only [p.send_of_delivered hm]

/-! ## What is given -/

theorem isEmpty_arrange (r : Revision) : (w.arrange r).isEmpty = r.isEmpty := by
  rw [arrange]
  split
  · exact r.isEmpty_sortInternal
  · rfl

theorem arrange_of_isEmpty {r : Revision} (h : r.isEmpty = true) : w.arrange r = r := by
  rw [arrange]
  split
  · exact Revision.sortInternal_of_isEmpty h
  · rfl

/-- What `consume` gives for what became of a record. -/
def consumptionOf : Result (Revision × Delivery) → Consumption
  | .ok (r, .delivered) => ⟨some r, none⟩
  | .ok (r, .failed e) => ⟨some r, some e⟩
  | .error e => ⟨none, some e⟩

theorem consume_eq_handle (w : Worker σ) (s : State σ) (text : String) (publishing : Bool) :
    (w.consume s text publishing).1 = (w.handle s text publishing).1 ∧
      (w.consume s text publishing).2.1 = consumptionOf (w.handle s text publishing).2.1 := by
  rw [consume]
  split <;> next h => rw [h]; exact ⟨rfl, rfl⟩

/-- A text that announces nothing changes nothing. -/
theorem handle_of_unannounced {text : String} {e : Fault}
    (h : ReleaseRecord.announced text = .error e) (s : State σ) (publishing : Bool) :
    (w.handle s text publishing).1 = s ∧ (w.handle s text publishing).2.1 = .error e := by
  rw [ReleaseRecord.announced] at h
  rw [handle]
  cases hrecord : ReleaseRecord.parse text with
  | error e =>
    rw [hrecord] at h
    cases h
    exact ⟨rfl, rfl⟩
  | ok record =>
    rw [bind_of_eq_ok hrecord] at h
    cases hc : Coordinate.ofRecord record with
    | error e =>
      rw [hc] at h
      cases h
      simp only [hc, and_self]
    | ok c =>
      rw [bind_of_eq_ok hc] at h
      cases htime : ReleaseRecord.releaseTime record with
      | error e =>
        rw [htime] at h
        cases h
        simp only [hc, generate, htime, and_self]
      | ok time =>
        rw [htime] at h
        cases h

/-- A release that is announced goes to the producer, and what that makes is dispatched. -/
theorem handle_of_announced {text : String} {c : Coordinate} {time : Int}
    (h : ReleaseRecord.announced text = .ok (c, time)) (s : State σ) (publishing : Bool) :
    (∀ e, (w.producer.produce s.site c time).2.result = .error e →
      (w.handle s text publishing).1 = w.afterMaking s text ∧
        (w.handle s text publishing).2.1 = .error e) ∧
    ∀ r, (w.producer.produce s.site c time).2.result = .ok r →
      (w.handle s text publishing).1 = (w.dispatch (w.afterMaking s text) c r publishing).1 ∧
        (w.handle s text publishing).2.1 =
          (w.dispatch (w.afterMaking s text) c r publishing).2.1 := by
  have hafter : w.afterMaking s text = { s with site := (w.producer.produce s.site c time).1 } := by
    rw [afterMaking, h]
  rw [ReleaseRecord.announced, bind_eq_ok_iff] at h
  obtain ⟨record, hrecord, h⟩ := h
  rw [bind_eq_ok_iff] at h
  obtain ⟨c', hc, h⟩ := h
  rw [bind_eq_ok_iff] at h
  obtain ⟨time', htime, h⟩ := h
  cases h
  rw [hafter, handle, hrecord]
  simp only [hc, generate, htime]
  constructor
  · intro e he
    simp only [he, and_self]
  · intro r hr
    simp only [hr, and_self]

/-- The message of a revision is handed over, and nothing else is done to the state. -/
theorem publish_eq {r : Revision} {value : String} (h : r.encode = .ok value) (s : State σ) :
    (w.publish s r).1 = w.handOver s (some ⟨w.producerTopic, r.uri, value⟩) ∧
      (w.publish s r).2.1 = w.delivery s ⟨w.producerTopic, r.uri, value⟩ := by
  rw [publish, h, handOver, delivery]
  simp only
  split <;> next hsend => rw [hsend]; exact ⟨rfl, rfl⟩

/-- A call graph with an edge is published if it is to be; otherwise there is nothing to be done. -/
theorem dispatch_eq {r : Revision} {value : String} (h : (w.arrange r).encode = .ok value)
    (s : State σ) (c : Coordinate) (publishing : Bool) :
    (publishing && !r.isEmpty) = true ∧
        (w.dispatch s c r publishing).1 =
          w.handOver s (some ⟨w.producerTopic, (w.arrange r).uri, value⟩) ∧
        (w.dispatch s c r publishing).2.1 =
          (w.delivery s ⟨w.producerTopic, (w.arrange r).uri, value⟩).map (w.arrange r, ·) ∨
      (publishing && !r.isEmpty) = false ∧ (w.dispatch s c r publishing).1 = s ∧
        (w.dispatch s c r publishing).2.1 = .ok (w.arrange r, .delivered) := by
  obtain ⟨hstate, hresult⟩ := publish_eq h s
  rw [dispatch]
  cases hempty : r.isEmpty with
  | true =>
    rw [arrange_of_isEmpty hempty]
    cases publishing <;> exact .inr ⟨rfl, rfl, rfl⟩
  | false =>
    cases publishing with
    | false => exact .inr ⟨rfl, rfl, rfl⟩
    | true =>
      refine .inl ⟨rfl, hstate, ?_⟩
      simp only [Bool.false_eq_true, if_false, if_true, hresult]

/-! ## The record -/

/-- What is made of a record: the call graph of the release that it announces. -/
def making (w : Worker σ) (s : State σ) (text : String) : Result Revision := do
  let (c, time) ← ReleaseRecord.announced text
  (w.producer.produce s.site c time).2.result

/-- The message of what was made, if it is to be published and has an edge. -/
def messageOf (w : Worker σ) (publishing : Bool) : Result Revision → Option Message
  | .error _ => none
  | .ok r =>
    if publishing && !r.isEmpty then
      match (w.arrange r).encode with
      | .error _ => none
      | .ok value => some ⟨w.producerTopic, (w.arrange r).uri, value⟩
    else none

/-- What is returned for what was made, if its message is delivered. -/
def outcomeOf (w : Worker σ) : Result Revision → Consumption
  | .error e => ⟨none, some e⟩
  | .ok r => ⟨some (w.arrange r), none⟩

/-- What can be written can be written with its calls in order. -/
theorem exists_encode_arrange {r : Revision} (h : ∃ text, r.encode = .ok text) :
    ∃ text, (w.arrange r).encode = .ok text := by
  obtain ⟨text, htext⟩ := h
  rw [arrange]
  split
  · exact Revision.exists_encode_sortInternal htext
  · exact ⟨text, htext⟩

theorem messageOf_ok {publishing : Bool} {r : Revision} {value : String}
    (hvalue : (w.arrange r).encode = .ok value) : w.messageOf publishing (.ok r) =
      if publishing && !r.isEmpty then some ⟨w.producerTopic, (w.arrange r).uri, value⟩
      else none := by
  rw [messageOf]
  simp only [hvalue]

/-- **One record, whatever the state.**  The worker goes to the producer and hands over the message
of what was made, if it has one; and if that is delivered it returns what there is of the record. -/
theorem consume_eq_of_making {text : String}
    (hencode : ∀ r, w.making s text = .ok r → ∃ value, r.encode = .ok value) (publishing : Bool) :
    (w.consume s text publishing).1 =
      w.handOver (w.afterMaking s text) (w.messageOf publishing (w.making s text)) ∧
    ((∀ m, w.messageOf publishing (w.making s text) = some m →
        w.delivery (w.afterMaking s text) m = .ok .delivered) →
      (w.consume s text publishing).2.1 = w.outcomeOf (w.making s text)) := by
  obtain ⟨hstate, hconsumption⟩ := w.consume_eq_handle s text publishing
  rw [hstate, hconsumption]
  cases hann : ReleaseRecord.announced text with
  | error e =>
    have hmaking : w.making s text = .error e := by
      rw [making, hann]
      rfl
    obtain ⟨hs, hr⟩ := handle_of_unannounced (w := w) hann s publishing
    rw [hs, hr, hmaking, afterMaking, hann]
    exact ⟨rfl, fun _ ↦ rfl⟩
  | ok found =>
    obtain ⟨c, time⟩ := found
    have hmaking : w.making s text = (w.producer.produce s.site c time).2.result := by
      rw [making, bind_of_eq_ok hann]
    obtain ⟨hfail, hok⟩ := handle_of_announced (w := w) hann s publishing
    rw [← hmaking] at hfail hok
    cases hr : w.making s text with
    | error e =>
      obtain ⟨hs, hres⟩ := hfail e hr
      rw [hs, hres]
      exact ⟨rfl, fun _ ↦ rfl⟩
    | ok r =>
      obtain ⟨hs, hres⟩ := hok r hr
      obtain ⟨value, hvalue⟩ := exists_encode_arrange (w := w) (hencode r hr)
      rw [hs, hres, messageOf_ok hvalue]
      -- what is made is handed over only if that was asked for and it has an edge
      rcases dispatch_eq hvalue (w.afterMaking s text) c publishing with
        ⟨hpublish, hleft, hgiven⟩ | ⟨hpublish, hleft, hgiven⟩
      · rw [hleft, hgiven, if_pos hpublish]
        refine ⟨rfl, fun hdelivered ↦ ?_⟩
        rw [hdelivered _ rfl]
        rfl
      · rw [hleft, hgiven, hpublish]
        exact ⟨rfl, fun _ ↦ rfl⟩

end Worker

end RevisionGraph
