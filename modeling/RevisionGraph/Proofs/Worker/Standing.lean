import RevisionGraph.Proofs.Json.RoundTrip
import RevisionGraph.Proofs.Worker.Publication
import RevisionGraph.Worker.Standing

/-!
# How a worker stands after a record

A worker keeps its standing from record to record, and errors get into it in two ways.  It is
coherent all the same, and it tells of the last record only.

* **Errors.**  An error that has a text can be noted, and what is noted is not empty and can be read
  back: `note_of_failure?_eq_none` and `read_failureJson`.
* **One record.**  Whatever is raised, the standing `IsConsistent` with what is returned:
  `isConsistent_attend`.  `handle_result` says what a record leads to, and `attend_eq` says that the
  standing is what can be told from what `consume` gives, if the fault of the record can be asked
  for its text.  By `isCoherent_attend_iff` the standing `IsCoherent` in just that case.
* **Whole runs.**  Between records anything may happen to the state: `Event.change`.
  `attendances_coherent` says both of every record of a run.
-/

set_option autoImplicit false

namespace RevisionGraph

open Result

/-! ## Errors -/

namespace Consumption

theorem read_failureJson (e : Fault) :
    Json.read ((failureJson e).write .spaced) = .ok (failureJson e) := by
  have hkeys : (failureJson e).HasDistinctKeys := by
    rw [failureJson, Json.hasDistinctKeys_object_iff]
    refine ⟨by simp, ?_⟩
    simp only [List.forall_mem_cons]
    exact ⟨rfl, rfl, rfl, rfl, List.forall_mem_nil _⟩
  exact Json.read_write Json.Spacing.isReadable_spaced rfl hkeys rfl

/-- The text of an error is not empty. -/
theorem write_failureJson_ne (e : Fault) : (failureJson e).write .spaced ≠ "" := by
  intro h
  have hread := read_failureJson e
  rw [h] at hread
  cases hread

theorem isSuccessful_iff {c : Consumption} : c.isSuccessful = true ↔ c.failureText = "" := by
  rw [isSuccessful, failureText]
  cases c.failure with
  | none => exact iff_of_true rfl rfl
  | some e => exact iff_of_false Bool.false_ne_true (write_failureJson_ne e)

end Consumption

variable {speech : Speech}

/-- An error that has a text is noted. -/
theorem Standing.note_of_failure?_eq_none {e : Fault} (h : speech.failure? e = none)
    (x : Standing) :
    x.note speech e = .ok { x with error := (Consumption.failureJson e).write .spaced } := by
  rw [note, h]

namespace Standing

/-- An error that is noted leaves a text. -/
theorem error_ne_of_note {x y : Standing} {e : Fault} (h : x.note speech e = .ok y) :
    y.error ≠ "" := by
  rw [note] at h
  split at h <;> cases h
  exact Consumption.write_failureJson_ne e

theorem processed_of_note {x y : Standing} {e : Fault} (h : x.note speech e = .ok y) :
    y.processed = x.processed := by
  rw [note] at h
  split at h <;> cases h
  rfl

theorem processed_giveUp (x : Standing) (e : Fault) :
    (x.giveUp speech e).1.processed = x.processed := by
  rw [giveUp]
  split
  · next hnote => exact processed_of_note hnote
  · rfl

theorem processed_settle (x : Standing) (result : Result (Revision × Delivery)) :
    (x.settle speech result).1.processed = x.processed := by
  cases result with
  | error e => exact x.processed_giveUp e
  | ok made =>
    obtain ⟨r, _ | cause⟩ := made
    · rfl
    · rw [settle]
      split
      · next hnote => exact processed_of_note hnote
      · exact x.processed_giveUp _

@[simp]
theorem error_conclude (x : Standing) : x.conclude.error = x.error := by
  rw [conclude]
  split <;> rfl

theorem processed_conclude_iff {x : Standing} (h : x.processed = false) :
    x.conclude.processed = true ↔ x.error = "" := by
  rw [conclude, ← String.isEmpty_iff]
  split
  · next hempty => exact iff_of_true rfl hempty
  · next hempty => exact iff_of_false (by rw [h]; exact Bool.false_ne_true) hempty

end Standing

namespace Worker

variable {σ : Type} {w : Worker σ}

/-! ## One record -/

/-- What a record leads to.  What is made of it is handed over if it is to be published, has an edge
and can be written. -/
theorem handle_result (w : Worker σ) (s : State σ) (text : String) (publishing : Bool) :
    (w.handle s text publishing).2.1 = (w.making s text >>= fun r ↦
      if publishing && !r.isEmpty then (w.arrange r).encode >>= fun value ↦
        (w.delivery (w.afterMaking s text) ⟨w.producerTopic, (w.arrange r).uri, value⟩).map
          (w.arrange r, ·)
      else .ok (w.arrange r, .delivered)) := by
  cases hann : ReleaseRecord.announced text with
  | error e =>
    rw [(handle_of_unannounced hann s publishing).2, making, hann]
    rfl
  | ok found =>
    obtain ⟨c, time⟩ := found
    obtain ⟨hfail, hok⟩ := handle_of_announced (w := w) hann s publishing
    have hmaking : w.making s text = (w.producer.produce s.site c time).2.result := by
      rw [making, bind_of_eq_ok hann]
    rw [← hmaking] at hfail hok
    cases hr : w.making s text with
    | error e =>
      rw [(hfail e hr).2]
      rfl
    | ok r =>
      rw [(hok r hr).2, bind_of_eq_ok rfl]
      cases hvalue : (w.arrange r).encode with
      | ok value =>
        rcases dispatch_eq hvalue (w.afterMaking s text) c publishing with
          ⟨hpublish, -, hgiven⟩ | ⟨hpublish, -, hgiven⟩
        · rw [hgiven, if_pos hpublish]
          rfl
        · rw [hgiven, hpublish]
          rfl
      | error e =>
        -- it is not handed over, so it matters only where it was to be published
        rw [dispatch]
        cases hempty : r.isEmpty with
        | true =>
          rw [arrange_of_isEmpty hempty]
          cases publishing <;> rfl
        | false =>
          cases publishing with
          | false => rfl
          | true =>
            simp only [publish, hvalue]
            rfl

/-- Where the fault can be asked for its text, it is what is noted. -/
theorem settle_eq {result : Result (Revision × Delivery)}
    (htell : ∀ e, (consumptionOf result).failure = some e → speech.failure? e = none) :
    Standing.settle speech {} result =
      ({ error := (consumptionOf result).failureText }, .ok (consumptionOf result).revision) := by
  cases result with
  | error e =>
    have he := htell e rfl
    rw [Standing.settle, Standing.giveUp, speech.leaving_eq he,
      Standing.note_of_failure?_eq_none he]
    rfl
  | ok made =>
    obtain ⟨r, _ | cause⟩ := made
    · rfl
    · rw [Standing.settle, Standing.note_of_failure?_eq_none (htell cause rfl)]
      rfl

theorem conclude_eq (c : Consumption) :
    Standing.conclude { error := c.failureText } = ⟨c.failureText, c.isSuccessful⟩ := by
  rw [Standing.conclude]
  simp only [String.isEmpty_iff, ← Consumption.isSuccessful_iff]
  cases c.isSuccessful <;> rfl

/-- Where something went wrong there is an error, or a fault gets out. -/
theorem error_ne_of_settle {result : Result (Revision × Delivery)} {e : Fault} {x : Standing}
    {r? : Option Revision} (he : (consumptionOf result).failure = some e)
    (h : Standing.settle speech {} result = (x, .ok r?)) : x.error ≠ "" := by
  have hgiven {f : Fault} (h : Standing.giveUp speech {} f = (x, .ok r?)) : x.error ≠ "" := by
    rw [Standing.giveUp] at h
    split at h <;> cases h
    next hnote => exact Standing.error_ne_of_note hnote
  cases result with
  | error f => exact hgiven h
  | ok made =>
    obtain ⟨r, _ | cause⟩ := made
    · cases he
    · rw [Standing.settle] at h
      split at h
      · next hnote =>
        cases h
        exact Standing.error_ne_of_note hnote
      · exact hgiven h

/-- Where nothing is returned something went wrong. -/
theorem exists_failure_of_settle {result : Result (Revision × Delivery)} {x : Standing}
    (h : Standing.settle speech {} result = (x, .ok none)) :
    ∃ e, (consumptionOf result).failure = some e := by
  cases result with
  | error f => exact ⟨f, rfl⟩
  | ok made =>
    obtain ⟨r, _ | cause⟩ := made
    · cases h
    · exact ⟨cause, rfl⟩

/-- The fault of a record, if there is one, can be asked for its text. -/
def CanTell (w : Worker σ) (speech : Speech) (s : State σ) (q : Item) : Prop :=
  ∀ e, (w.consume s q.text q.publishing).2.1.failure = some e → speech.failure? e = none

theorem canTell_clear (w : Worker σ) (s : State σ) (q : Item) : w.CanTell .clear s q :=
  fun _ _ ↦ rfl

/-- **The standing can be told from what `consume` gives**, and nothing of the standing before is
left. -/
theorem attend_eq (w : Worker σ) (x : Standing) {s : State σ} {q : Item}
    (htell : w.CanTell speech s q) : w.attend speech x s q.text q.publishing =
      (⟨(w.consume s q.text q.publishing).2.1.failureText,
          (w.consume s q.text q.publishing).2.1.isSuccessful⟩,
        (w.consume s q.text q.publishing).1,
        .ok (w.consume s q.text q.publishing).2.1.revision) := by
  obtain ⟨hstate, hconsumption⟩ := w.consume_eq_handle s q.text q.publishing
  rw [CanTell, hconsumption] at htell
  rw [hstate, hconsumption, attend]
  simp only [settle_eq htell, conclude_eq]

/-- Where something went wrong there is an error, or a fault gets out. -/
theorem error_ne_of_failure (w : Worker σ) (x : Standing) {s : State σ} {q : Item} {e : Fault}
    (he : (w.consume s q.text q.publishing).2.1.failure = some e) {r? : Option Revision}
    (hreturned : (w.attend speech x s q.text q.publishing).2.2 = .ok r?) :
    (w.attend speech x s q.text q.publishing).1.error ≠ "" := by
  rw [(w.consume_eq_handle s q.text q.publishing).2] at he
  rw [attend] at hreturned ⊢
  rcases hsettle : Standing.settle speech {} (w.handle s q.text q.publishing).2.1 with ⟨y, f | r⟩
  · simp only [hsettle] at hreturned
    cases hreturned
  · simp only [hsettle, Standing.error_conclude]
    exact error_ne_of_settle he hsettle

/-- **A revision is returned along with an error when its message could not be delivered**, and the
error is the reason. -/
theorem exists_consume_eq_iff (w : Worker σ) (s : State σ) (text : String) (publishing : Bool)
    (e : Fault) : (∃ r, (w.consume s text publishing).2.1 = ⟨some r, some e⟩) ↔
      ∃ m, w.messageOf publishing (w.making s text) = some m ∧
        w.delivery (w.afterMaking s text) m = .ok (.failed e) := by
  rw [(w.consume_eq_handle s text publishing).2, handle_result]
  cases w.making s text with
  | error fault => exact iff_of_false (by rintro ⟨_, ⟨⟩⟩) (by rintro ⟨_, ⟨⟩, _⟩)
  | ok r =>
    rw [bind_of_eq_ok rfl, messageOf]
    split
    · cases (w.arrange r).encode with
      | error fault => exact iff_of_false (by rintro ⟨_, ⟨⟩⟩) (by rintro ⟨_, ⟨⟩, _⟩)
      | ok value =>
        rw [bind_of_eq_ok rfl]
        simp only [Option.some.injEq, exists_eq_left']
        cases w.delivery (w.afterMaking s text) ⟨w.producerTopic, (w.arrange r).uri, value⟩ with
        | error fault => exact iff_of_false (by rintro ⟨_, ⟨⟩⟩) (by rintro ⟨⟩)
        | ok delivery =>
          cases delivery with
          | delivered => exact iff_of_false (by rintro ⟨_, ⟨⟩⟩) (by rintro ⟨⟩)
          | failed cause =>
            constructor
            · rintro ⟨_, ⟨⟩⟩
              rfl
            · rintro ⟨⟩
              exact ⟨_, rfl⟩
    · exact iff_of_false (by rintro ⟨_, ⟨⟩⟩) (by rintro ⟨_, ⟨⟩, _⟩)

/-- Where nothing is returned there is an error. -/
theorem failure_of_revision_eq_none (s : State σ) (text : String) (publishing : Bool)
    (h : (w.consume s text publishing).2.1.revision = none) :
    (w.consume s text publishing).2.1.failure ≠ none := by
  rw [(w.consume_eq_handle s text publishing).2] at h ⊢
  cases hresult : (w.handle s text publishing).2.1 with
  | error e => simp [consumptionOf]
  | ok made =>
    obtain ⟨r, _ | cause⟩ := made <;> simp [hresult, consumptionOf] at h

/-- A record that was attended to, and how the worker stood and what it returned then. -/
structure Attendance (σ : Type) where
  before : State σ
  item : Item
  standing : Standing
  returned : Result (Option Revision)

/-- The standing fits with what was returned, and both depend on the record alone. -/
structure Attendance.IsConsistent (w : Worker σ) (speech : Speech) (y : Attendance σ) : Prop where
  processed_iff_returns : y.standing.processed = true ↔
    (∃ r?, y.returned = .ok r?) ∧ y.standing.error = ""
  error_of_none : y.returned = .ok none → y.standing.error ≠ ""
  /-- a worker without a past would stand and return the same -/
  fresh : ∃ s, w.attend speech {} y.before y.item.text y.item.publishing =
    (y.standing, s, y.returned)

/-- The standing tells how the record went. -/
structure Attendance.IsCoherent (w : Worker σ) (speech : Speech) (y : Attendance σ) : Prop
    extends y.IsConsistent w speech where
  /-- no fault gets out -/
  returns : ∃ r?, y.returned = .ok r?
  processed_iff : y.standing.processed = true ↔ y.standing.error = ""
  /-- an error stands beside a revision if a message was handed over and could not be delivered -/
  failed_iff : ((∃ r, y.returned = .ok (some r)) ∧ y.standing.error ≠ "") ↔ ∃ m cause,
    w.messageOf y.item.publishing (w.making y.before y.item.text) = some m ∧
      w.delivery (w.afterMaking y.before y.item.text) m = .ok (.failed cause)
  /-- an error tells the failure of the record, by its text -/
  tells : y.standing.error ≠ "" → ∃ e document,
    (w.consume y.before y.item.text y.item.publishing).2.1.failure = some e ∧
      speech.failure? e = none ∧ Json.read y.standing.error = .ok document ∧
      document.member? "type" = some (.text e.category.name) ∧
      document.member? "msg" = some (.text e.message)

/-- **The standing fits with what is returned**, whatever was raised and whether or not it has a
text. -/
theorem isConsistent_attend (w : Worker σ) (speech : Speech) (x : Standing) (s : State σ)
    (q : Item) : Attendance.IsConsistent w speech ⟨s, q,
      (w.attend speech x s q.text q.publishing).1,
      (w.attend speech x s q.text q.publishing).2.2⟩ := by
  have hprocessed : (Standing.settle speech {} (w.handle s q.text q.publishing).2.1).1.processed =
      false := Standing.processed_settle {} _
  refine ⟨?_, ?_, ⟨_, rfl⟩⟩ <;> rw [attend] <;>
    rcases hsettle : Standing.settle speech {} (w.handle s q.text q.publishing).2.1 with ⟨y, e | r?⟩
  all_goals simp only [hsettle] at hprocessed ⊢
  · rw [hprocessed]
    exact iff_of_false Bool.false_ne_true (by rintro ⟨⟨_, ⟨⟩⟩, _⟩)
  · rw [Standing.processed_conclude_iff hprocessed, Standing.error_conclude]
    exact ⟨fun h ↦ ⟨⟨r?, rfl⟩, h⟩, And.right⟩
  · rintro ⟨⟩
  · rintro ⟨⟩
    rw [Standing.error_conclude]
    obtain ⟨e, he⟩ := exists_failure_of_settle hsettle
    exact error_ne_of_settle he hsettle

/-- **One record leaves the standing coherent exactly if its fault can be asked for its text**, or
if it has none. -/
theorem isCoherent_attend_iff (w : Worker σ) (x : Standing) (s : State σ) (q : Item) :
    Attendance.IsCoherent w speech ⟨s, q, (w.attend speech x s q.text q.publishing).1,
      (w.attend speech x s q.text q.publishing).2.2⟩ ↔ w.CanTell speech s q := by
  constructor
  · intro h e he
    obtain ⟨r?, hreturned⟩ := h.returns
    obtain ⟨e', -, he', hclear, -⟩ := h.tells (w.error_ne_of_failure x he hreturned)
    obtain rfl : e = e' := Option.some.inj (he.symm.trans he')
    exact hclear
  intro htell
  have hconsistent := w.isConsistent_attend speech x s q
  have hfailed := w.exists_consume_eq_iff s q.text q.publishing
  rw [attend_eq w x htell] at hconsistent ⊢
  generalize hc : (w.consume s q.text q.publishing).2.1 = c at hfailed hconsistent
  have herror : c.failureText ≠ "" ↔ ∃ e, c.failure = some e := by
    rw [← Option.isSome_iff_exists, Ne, ← Consumption.isSuccessful_iff, Consumption.isSuccessful]
    cases c.failure <;> simp
  refine ⟨hconsistent, ⟨_, rfl⟩, Consumption.isSuccessful_iff, ?_, fun hne ↦ ?_⟩
  · simp only [herror, Except.ok.injEq]
    constructor
    · rintro ⟨⟨r, hr⟩, e, he⟩
      obtain ⟨m, hm, hdelivery⟩ := (hfailed e).mp ⟨r, by rw [← hr, ← he]⟩
      exact ⟨m, e, hm, hdelivery⟩
    · rintro ⟨m, e, hm, hdelivery⟩
      obtain ⟨r, hr⟩ := (hfailed e).mpr ⟨m, hm, hdelivery⟩
      rw [hr]
      exact ⟨⟨r, rfl⟩, e, rfl⟩
  · obtain ⟨e, he⟩ := herror.mp hne
    refine ⟨e, Consumption.failureJson e, hc ▸ he, htell e (hc ▸ he), ?_, rfl, rfl⟩
    simp only [Consumption.failureText, he]
    exact Consumption.read_failureJson e

/-! ## Whole runs -/

/-- What happens to a worker: a record comes, or something else changes what it works with, as when
the publisher is closed or something gets in its way. -/
inductive Event (σ : Type) where
  | record (q : Item)
  | change (f : State σ → State σ)

/-- The record of an event. -/
def Event.item? : Event σ → Option Item
  | .record q => some q
  | .change _ => none

/-- Attends to the records among the events, one after the other. -/
def attendances (w : Worker σ) (speech : Speech) :
    Standing → State σ → List (Event σ) → List (Attendance σ)
  | _, _, [] => []
  | x, s, .change f :: rest => w.attendances speech x (f s) rest
  | x, s, .record q :: rest =>
    let (x, t, returned) := w.attend speech x s q.text q.publishing
    ⟨s, q, x, returned⟩ :: w.attendances speech x t rest

/-- A fault that somebody else raises, and whose text raises another. -/
def muteFault : Fault := .foreign "MuteError" ""

/-- Only the mute fault has no text. -/
def sampleSpeech : Speech where
  failure? e := if e = muteFault then some (.runtime "no text") else none
  leaving e := if e = muteFault then .runtime "no text" else e
  leaving_eq {e} h := by
    split at h
    · cases h
    · next hne => exact if_neg hne
  isForeign {e} h := by
    split at h
    · next heq => exact ⟨_, _, heq⟩
    · exact absurd rfl h

/-- What somebody else raises keeps every message back. -/
def brokenFault : Fault := .foreign "ConnectionError" "broker unavailable"

/-- Nothing can be sent. -/
def sampleBroken : State Unit := ⟨⟨.empty, ()⟩, .memory { obstacle := some brokenFault }⟩

/-- One record, whose call graph has an edge. -/
def sampleItem : Item := ⟨sampleRecord "1.0", true⟩

/-- The call graph cannot be delivered, and the reason has a text. -/
theorem exists_consume_sampleItem :
    ∃ r, (sampleWorker.consume sampleBroken sampleItem.text true).2.1 =
      ⟨some r, some brokenFault⟩ := by
  obtain ⟨r, -, hr, hempty, -⟩ := exists_sampleRevision
  obtain ⟨value, hvalue⟩ :=
    exists_encode_arrange (w := sampleWorker) (isAssembled_sampleRevision hr).exists_encode
  have hmaking : sampleWorker.making sampleBroken sampleItem.text = .ok r :=
    revisionOf_sampleRecord.trans hr
  refine (exists_consume_eq_iff sampleWorker sampleBroken _ true brokenFault).mpr
    ⟨⟨sampleWorker.producerTopic, (sampleWorker.arrange r).uri, value⟩, ?_, ?_⟩
  · rw [hmaking, messageOf_ok hvalue, hempty]
    rfl
  · rw [delivery, publisher_afterMaking]
    rfl

end Worker

end RevisionGraph
