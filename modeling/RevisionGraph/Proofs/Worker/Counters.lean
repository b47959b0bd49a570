import RevisionGraph.Proofs.Worker.Standing

/-!
# What the counters of a worker tell

A worker has three counters: of call graphs with an edge, of call graphs without, and of records
that could not be processed.  They move in different places.  The first two move as soon as a call
graph is made; the third where a fault is raised, and a delivery that fails raises none.

* **One record.**  `moved_consume` says which counters a record moves: `graphCounters` by what is
  made of it, and the counter of failures if a fault is raised on the way.
* **Whole runs.**  `moved_journal` puts the records of a run together.
* **The accounts.**  `total_emptyCounter` and `total_generatedCounter` are exact.  By
  `total_failedCounter` the counter of failures leaves out the messages that could not be delivered,
  and so by `countsRecords_iff` the counters account for every record only where there are none.
-/

set_option autoImplicit false

namespace RevisionGraph

open Result Telemetry

namespace Telemetry.Journal

/-- The counters that moved, one for each step. -/
def moved (j : Journal) : List String := j.ticks.map Tick.counter

theorem total_eq_count_moved (j : Journal) (counter : String) :
    j.total counter = (moved j).count counter := by
  rw [total, moved, List.count, List.countP_map]
  rfl

@[simp] theorem moved_append (j k : Journal) : moved (j ++ k) = moved j ++ moved k := by
  rw [moved, ticks_append, List.map_append, moved, moved]

@[simp] theorem moved_nil : moved [] = [] := rfl

@[simp] theorem moved_notice (n : Notice) (j : Journal) : moved (.notice n :: j) = moved j := rfl

@[simp] theorem moved_span (s : Span) (j : Journal) : moved (.span s :: j) = moved j := rfl

@[simp] theorem moved_tick (t : Tick) (j : Journal) : moved (.tick t :: j) = t.counter :: moved j :=
  rfl

@[simp] theorem moved_ofNotices (notices : List Notice) : moved (ofNotices notices) = [] := by
  induction notices with
  | nil => rfl
  | cons n rest ih => rw [← ih, ofNotices, ofNotices, List.map_cons, moved_notice]

end Telemetry.Journal

namespace Worker

open Telemetry.Journal

variable {σ : Type} {w : Worker σ}

/-! ## One record -/

/-- The counter that a call graph moves once it is made. -/
def graphCounter (r : Revision) : String := if r.isEmpty then emptyCounter else generatedCounter

/-- The counters that are moved by what is made of a record: one if anything is. -/
def graphCounters (made : Result Revision) : List String :=
  match made with
  | .error _ => []
  | .ok r => [graphCounter r]

theorem moved_generate (w : Worker σ) (site : Engine.Site σ) (c : Coordinate) (record : Json) :
    moved (w.generate site c record).2.2 = [] := by
  rw [generate]
  cases ReleaseRecord.releaseTime record with
  | error e => rfl
  | ok time => cases hr : (w.producer.produce site c time).2.result <;> simp [hr]

theorem moved_publish (w : Worker σ) (s : State σ) (r : Revision) :
    moved (w.publish s r).2.2 = [] := by
  rw [publish]
  split
  · rfl
  · split
    split <;> rfl

theorem moved_dispatch (w : Worker σ) (s : State σ) (c : Coordinate) (r : Revision)
    (publishing : Bool) : moved (w.dispatch s c r publishing).2.2 = [graphCounter r] := by
  rw [dispatch, graphCounter]
  cases r.isEmpty with
  | true => rfl
  | false => cases publishing <;> simp [tickFor, moved_publish]

theorem moved_handle (w : Worker σ) (s : State σ) (text : String) (publishing : Bool) :
    moved (w.handle s text publishing).2.2 = graphCounters (w.making s text) := by
  rw [handle, making, ReleaseRecord.announced]
  cases ReleaseRecord.parse text with
  | error e => rfl
  | ok record =>
    rw [bind_of_eq_ok rfl]
    cases hc : Coordinate.ofRecord record with
    | error e => simp only [hc]; rfl
    | ok c =>
      have hquiet := w.moved_generate s.site c record
      rw [bind_of_eq_ok rfl]
      simp only [hc, generate] at hquiet ⊢
      cases htime : ReleaseRecord.releaseTime record with
      | error e => rfl
      | ok time =>
        rw [htime] at hquiet
        rw [bind_of_eq_ok rfl, pure_bind]
        cases hr : (w.producer.produce s.site c time).2.result with
        | error e => simp [hr, graphCounters]
        | ok r => simp [hr, graphCounters, moved_dispatch]

/-- **The counters that a record moves.**  Whatever is made of it moves one, and a fault that is
raised on the way moves the counter of failures. -/
theorem moved_consume (w : Worker σ) (s : State σ) (text : String) (publishing : Bool) :
    moved (w.consume s text publishing).2.2 = graphCounters (w.making s text) ++
      if (w.consume s text publishing).2.1.revision = none then [failedCounter] else [] := by
  rw [← w.moved_handle s text publishing, (w.consume_eq_handle s text publishing).2, consume]
  obtain ⟨t, result, journal⟩ := w.handle s text publishing
  cases result with
  | error e => simp [consumptionOf, failureTick]
  | ok given =>
    obtain ⟨r, _ | cause⟩ := given
    · exact (List.append_nil _).symm
    · exact (List.append_nil _).symm

/-! ## Whole runs -/

/-- What there is to see while records come and things happen in between. -/
def journal (w : Worker σ) : State σ → List (Event σ) → Journal
  | _, [] => []
  | s, .change f :: rest => w.journal (f s) rest
  | s, .record q :: rest =>
    let (s, _, journal) := w.consume s q.text q.publishing
    journal ++ w.journal s rest

namespace Attendance

/-- What was made of the record. -/
def made (w : Worker σ) (y : Attendance σ) : Result Revision := w.making y.before y.item.text

/-- Such a call graph was made of the record. -/
def madeSome (w : Worker σ) (such : Revision → Bool) (y : Attendance σ) : Bool :=
  match y.made w with
  | .error _ => false
  | .ok r => such r

/-- The record had a message that was taken and could not be delivered. -/
def isUndelivered (w : Worker σ) (y : Attendance σ) : Bool :=
  match w.messageOf y.item.publishing (y.made w) with
  | none => false
  | some m => match w.delivery (w.afterMaking y.before y.item.text) m with
    | .ok (.failed _) => true
    | _ => false

theorem isUndelivered_iff {y : Attendance σ} : y.isUndelivered w = true ↔ ∃ e m,
    w.messageOf y.item.publishing (w.making y.before y.item.text) = some m ∧
      w.delivery (w.afterMaking y.before y.item.text) m = .ok (.failed e) := by
  rw [isUndelivered, made]
  cases w.messageOf y.item.publishing (w.making y.before y.item.text) with
  | none => exact iff_of_false Bool.false_ne_true (by rintro ⟨_, _, ⟨⟩, _⟩)
  | some m =>
    simp only [Option.some.injEq, exists_eq_left']
    split
    · next e he => exact iff_of_true rfl ⟨e, he⟩
    · next hne => exact iff_of_false Bool.false_ne_true fun ⟨e, he⟩ ↦ hne e he

end Attendance

/-- What became of a record that was attended to is what `consume` gives for it. -/
theorem eq_consume_of_mem_attendances {x : Standing} {s : State σ} {events : List (Event σ)}
    {y : Attendance σ} (hy : y ∈ w.attendances .clear x s events) :
    y.standing.processed = (w.consume y.before y.item.text y.item.publishing).2.1.isSuccessful ∧
      y.returned = .ok (w.consume y.before y.item.text y.item.publishing).2.1.revision := by
  induction events generalizing x s with
  | nil => cases hy
  | cons event rest ih =>
    cases event with
    | change f => exact ih hy
    | record q =>
      rw [attendances, List.mem_cons] at hy
      obtain rfl | hy := hy
      · rw [attend_eq w x (w.canTell_clear s q)]
        exact ⟨rfl, rfl⟩
      · exact ih hy

/-- The counters that a record moved. -/
def Attendance.moves (w : Worker σ) (y : Attendance σ) : List String :=
  graphCounters (y.made w) ++ if y.returned = .ok none then [failedCounter] else []

/-- **The counters that a run moves** are those that its records move, one record after the
other. -/
theorem moved_journal (w : Worker σ) (x : Standing) (s : State σ) (events : List (Event σ)) :
    moved (w.journal s events) =
      (w.attendances .clear x s events).flatMap (Attendance.moves w) := by
  induction events generalizing x s with
  | nil => rfl
  | cons event rest ih =>
    cases event with
    | change f => exact ih x (f s)
    | record q =>
      rw [journal, attendances, attend_eq w x (w.canTell_clear s q)]
      simp only [moved_append, moved_consume, List.flatMap_cons, Attendance.moves, Except.ok.injEq]
      rw [ih ⟨_, _⟩]
      rfl

/-! ## The accounts -/

/-- What each of the records adds up to is what the run adds up to. -/
theorem total_add_countP {x : Standing} {s : State σ} {events : List (Event σ)} {counter : String}
    {p q : Attendance σ → Bool} (h : ∀ y ∈ w.attendances .clear x s events,
      (y.moves w).count counter + (if p y then 1 else 0) = if q y then 1 else 0) :
    (w.journal s events).total counter + (w.attendances .clear x s events).countP p =
      (w.attendances .clear x s events).countP q := by
  rw [total_eq_count_moved, w.moved_journal x]
  generalize w.attendances .clear x s events = l at h ⊢
  induction l with
  | nil => rfl
  | cons y rest ih =>
    rw [List.forall_mem_cons] at h
    obtain ⟨hhere, hrest⟩ := h
    have hmore := ih hrest
    rw [List.flatMap_cons, List.count_append, List.countP_cons, List.countP_cons]
    omega

/-- A counter of call graphs counts those that move it. -/
theorem total_eq_countP_madeSome {counter : String} {such : Revision → Bool}
    (hfailed : counter ≠ failedCounter) (h : ∀ r, graphCounter r = counter ↔ such r = true)
    (w : Worker σ) (x : Standing) (s : State σ) (events : List (Event σ)) :
    (w.journal s events).total counter =
      (w.attendances .clear x s events).countP (Attendance.madeSome w such) := by
  have hrecord : ∀ y ∈ w.attendances .clear x s events,
      (y.moves w).count counter + (if false then 1 else 0) =
        if y.madeSome w such then 1 else 0 := by
    intro y _
    have hraised :
        (if y.returned = .ok none then [failedCounter] else []).count counter = 0 := by
      split
      · exact List.count_eq_zero.mpr fun hmem ↦ hfailed (List.mem_singleton.mp hmem)
      · rfl
    rw [Attendance.moves, Attendance.madeSome, List.count_append, hraised]
    cases y.made w with
    | error e => rfl
    | ok r =>
      rw [graphCounters, List.count_singleton, Bool.eq_iff_iff.mpr (beq_iff_eq.trans (h r))]
      change _ = if such r then 1 else 0
      cases such r <;> rfl
  simpa using total_add_countP (p := fun _ ↦ false) hrecord

theorem total_emptyCounter (w : Worker σ) (x : Standing) (s : State σ) (events : List (Event σ)) :
    (w.journal s events).total emptyCounter =
      (w.attendances .clear x s events).countP (Attendance.madeSome w (·.isEmpty)) :=
  total_eq_countP_madeSome (by decide)
    (fun r ↦ by rw [graphCounter]; cases r.isEmpty <;> decide) w x s events

theorem total_generatedCounter (w : Worker σ) (x : Standing) (s : State σ)
    (events : List (Event σ)) : (w.journal s events).total generatedCounter =
      (w.attendances .clear x s events).countP (Attendance.madeSome w (!·.isEmpty)) :=
  total_eq_countP_madeSome (by decide)
    (fun r ↦ by rw [graphCounter]; cases r.isEmpty <;> decide) w x s events

/-- **The counter of failures leaves out what could not be delivered.** -/
theorem total_failedCounter (w : Worker σ) (x : Standing) (s : State σ) (events : List (Event σ)) :
    (w.journal s events).total failedCounter +
        (w.attendances .clear x s events).countP (Attendance.isUndelivered w) =
      (w.attendances .clear x s events).countP fun y ↦ !y.standing.processed := by
  refine total_add_countP fun y hy ↦ ?_
  obtain ⟨hprocessed, hreturned⟩ := eq_consume_of_mem_attendances hy
  have hgraph : (graphCounters (y.made w)).count failedCounter = 0 := by
    cases y.made w with
    | error e => rfl
    | ok r => cases hr : r.isEmpty <;> rw [graphCounters, graphCounter, hr] <;> rfl
  have hfailed := w.exists_consume_eq_iff y.before y.item.text y.item.publishing
  have hnone := failure_of_revision_eq_none (w := w) y.before y.item.text y.item.publishing
  rw [Attendance.moves, List.count_append, hgraph, Nat.zero_add, hreturned, hprocessed]
  generalize (w.consume y.before y.item.text y.item.publishing).2.1 = c at hfailed hnone ⊢
  -- a fault that was raised leaves no revision, and a delivery that failed leaves one
  cases hundelivered : y.isUndelivered w with
  | true =>
    obtain ⟨e, hm⟩ := Attendance.isUndelivered_iff.mp hundelivered
    obtain ⟨r, rfl⟩ := (hfailed e).mpr hm
    rfl
  | false =>
    obtain ⟨_ | r, _ | e⟩ := c
    · exact absurd rfl (hnone rfl)
    · rfl
    · rfl
    · rw [Attendance.isUndelivered_iff.mpr ⟨e, (hfailed e).mp ⟨r, rfl⟩⟩] at hundelivered
      cases hundelivered

/-- The counters of a journal account for every record: the counter of failures for those that were
not processed, the others for the call graphs that were made. -/
structure CountsRecords (w : Worker σ) (j : Journal) (records : List (Attendance σ)) : Prop where
  failed_eq : j.total failedCounter = records.countP fun y ↦ !y.standing.processed
  empty_eq : j.total emptyCounter = records.countP (Attendance.madeSome w (·.isEmpty))
  generated_eq : j.total generatedCounter = records.countP (Attendance.madeSome w (!·.isEmpty))

/-- **The counters account for every record exactly if every message was delivered** that the
publisher took.  Those of call graphs are right in any case, and the counter of failures is short by
the number of messages that could not be delivered. -/
theorem countsRecords_iff (w : Worker σ) (x : Standing) (s : State σ) (events : List (Event σ)) :
    ((w.journal s events).total emptyCounter =
        (w.attendances .clear x s events).countP (Attendance.madeSome w (·.isEmpty)) ∧
      (w.journal s events).total generatedCounter =
        (w.attendances .clear x s events).countP (Attendance.madeSome w (!·.isEmpty)) ∧
      (w.journal s events).total failedCounter +
          (w.attendances .clear x s events).countP (Attendance.isUndelivered w) =
        (w.attendances .clear x s events).countP fun y ↦ !y.standing.processed) ∧
    (w.CountsRecords (w.journal s events) (w.attendances .clear x s events) ↔
      ∀ y ∈ w.attendances .clear x s events, ∀ m,
        w.messageOf y.item.publishing (w.making y.before y.item.text) = some m →
          ∀ e, w.delivery (w.afterMaking y.before y.item.text) m ≠ .ok (.failed e)) := by
  have hempty := w.total_emptyCounter x s events
  have hgenerated := w.total_generatedCounter x s events
  have hfailed := w.total_failedCounter x s events
  refine ⟨⟨hempty, hgenerated, hfailed⟩, ?_⟩
  have hundelivered : (w.attendances .clear x s events).countP (Attendance.isUndelivered w) = 0 ↔
      ∀ y ∈ w.attendances .clear x s events, ∀ m,
        w.messageOf y.item.publishing (w.making y.before y.item.text) = some m →
          ∀ e, w.delivery (w.afterMaking y.before y.item.text) m ≠ .ok (.failed e) := by
    rw [List.countP_eq_zero]
    refine forall₂_congr fun y _ ↦ ?_
    rw [Attendance.isUndelivered_iff]
    exact ⟨fun h m hm e he ↦ h ⟨e, m, hm, he⟩, fun h ⟨e, m, hm, he⟩ ↦ h m hm e he⟩
  rw [← hundelivered]
  constructor
  · intro h
    have hall := h.failed_eq
    omega
  · intro h
    exact ⟨by omega, hempty, hgenerated⟩

/-- Something keeps every message back. -/
def sampleBlocked : State Unit :=
  ⟨⟨.empty, ()⟩, .memory { obstacle := some (.runtime "down") }⟩

/-- One record, whose call graph has an edge. -/
def sampleEvents : List (Event Unit) := [.record ⟨sampleRecord "1.0", true⟩]

theorem attendances_singleton (w : Worker σ) (x : Standing) (s : State σ) (q : Item) :
    w.attendances .clear x s [.record q] = [⟨s, q, (w.attend .clear x s q.text q.publishing).1,
      (w.attend .clear x s q.text q.publishing).2.2⟩] := rfl

/-- A record whose call graph could not be delivered was not processed, and no failure is
counted. -/
theorem exists_not_countsRecords :
    (sampleWorker.attendances .clear {} sampleBlocked sampleEvents).countP
        (!·.standing.processed) = 1 ∧
      (sampleWorker.journal sampleBlocked sampleEvents).total failedCounter = 0 ∧
      ¬ sampleWorker.CountsRecords (sampleWorker.journal sampleBlocked sampleEvents)
        (sampleWorker.attendances .clear {} sampleBlocked sampleEvents) := by
  have hfailed := sampleWorker.total_failedCounter {} sampleBlocked sampleEvents
  have hundelivered : ∀ y : Attendance Unit, y.before = sampleBlocked →
      y.item = ⟨sampleRecord "1.0", true⟩ → y.isUndelivered sampleWorker = true := by
    intro y hbefore hitem
    obtain ⟨r, -, hr, hempty, -⟩ := exists_sampleRevision
    obtain ⟨value, hvalue⟩ :=
      exists_encode_arrange (w := sampleWorker) (isAssembled_sampleRevision hr).exists_encode
    have hmaking : sampleWorker.making sampleBlocked (sampleRecord "1.0") = .ok r :=
      revisionOf_sampleRecord.trans hr
    refine Attendance.isUndelivered_iff.mpr ⟨.runtime "down",
      ⟨sampleWorker.producerTopic, (sampleWorker.arrange r).uri, value⟩, ?_, ?_⟩
    · rw [hbefore, hitem, hmaking, messageOf_ok hvalue, hempty]
      rfl
    · rw [hbefore, delivery, publisher_afterMaking]
      rfl
  have hcounted : (sampleWorker.attendances .clear {} sampleBlocked sampleEvents).countP
        (Attendance.isUndelivered sampleWorker) = 1 ∧
      (sampleWorker.attendances .clear {} sampleBlocked sampleEvents).length = 1 := by
    rw [sampleEvents, attendances_singleton, List.countP_singleton,
      if_pos (hundelivered _ rfl rfl)]
    exact ⟨rfl, List.length_singleton⟩
  have hle := (sampleWorker.attendances .clear {} sampleBlocked sampleEvents).countP_le_length
    (p := (!·.standing.processed))
  refine ⟨by omega, by omega, fun h ↦ ?_⟩
  have hall := h.failed_eq
  omega

end Worker

end RevisionGraph
