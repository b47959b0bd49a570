import RevisionGraph.Proofs.Assembly.History
import RevisionGraph.Proofs.Identifier
import RevisionGraph.Proofs.Worker.Handling

/-!
# What a worker publishes

A worker deals with one record after the other.  What it publishes and returns for a record depends
on that record alone: on the release that it announces, and on what the producer makes of that.

* **The message.**  `Message.Carries` says what the message of a revision holds: its uri, and a text
  from which it is read back.
* **One record.**  `published?` is the message of a record, if there is one, and `returned` what is
  returned for it; `consume_eq` says so of any publisher, whatever state the worker is in.
* **Whole runs.**  `consumeAll` goes through a list of records, and `consumeAll_publishes` puts
  together what becomes of them.
-/

set_option autoImplicit false

namespace RevisionGraph

open Result

/-! ## Revisions to be published -/

/-- The revision was built by an assembly, after any history, with dependencies that documents can
hold; no number in them is a floating point number, and the revision can be written. -/
structure Revision.IsAssembled (r : Revision) : Prop where
  exists_build : ∃ history release, ((Assembly.run history).build release).2 = .ok r ∧
    (∀ v ∈ release.dependencies, Dependencies.IsGroup v) ∧
    ∀ v ∈ release.dependencies, v.HasDistinctKeys
  isFloatFree : r.IsFloatFree
  exists_encode : ∃ text, r.encode = .ok text

theorem Revision.IsAssembled.isSound {r : Revision} (h : r.IsAssembled) : r.IsSound := by
  obtain ⟨history, release, hr, hgroups, hkeys⟩ := h.exists_build
  exact isSound_of_build (Assembly.isWellFormed_run history) hgroups hkeys hr

/-- The message has the uri of the revision as its key, and its value is read back as a revision
that says the same, with the internal calls in the same order, and has the key as its uri. -/
structure Message.Carries (m : Message) (r : Revision) : Prop where
  key_eq : m.key = r.uri
  exists_decode : ∃ s, Revision.decode m.value = .ok s ∧ s.Same r ∧
    s.calls.internal = r.calls.internal ∧ s.uri = m.key ∧ (r.HasSortedCalls → s.HasSortedCalls)

theorem Revision.IsSound.carries {r : Revision} (h : r.IsSound) (hfloat : r.IsFloatFree)
    {topic text : String} (htext : r.encode = .ok text) :
    Message.Carries ⟨topic, r.uri, text⟩ r where
  key_eq := rfl
  exists_decode := ⟨r.canonical, h.decode_of_encode hfloat htext, r.same_canonical, rfl, rfl,
    fun hsorted ↦ hsorted.canonical h.toIsValid⟩

namespace Worker

variable {σ : Type} {w : Worker σ} {made : Coordinate → Int → Result Revision} {s : State σ}

/-- The text of a record, and whether its call graph is to be published. -/
structure Item where
  text : String
  publishing : Bool

/-- The producer makes of each release what `made` says, whatever it finds at its site, and all that
it makes was assembled. -/
structure Makes (w : Worker σ) (made : Coordinate → Int → Result Revision) : Prop where
  result_eq : ∀ site c time, (w.producer.produce site c time).2.result = made c time
  isAssembled : ∀ c time r, made c time = .ok r → r.IsAssembled

/-! ## One record -/

/-- The revision of the release that a record announces. -/
def revisionOf (made : Coordinate → Int → Result Revision) (text : String) : Result Revision := do
  let (c, time) ← ReleaseRecord.announced text
  made c time

/-- What is published for a record. -/
def published? (w : Worker σ) (made : Coordinate → Int → Result Revision) (q : Item) :
    Option Message :=
  match revisionOf made q.text with
  | .error _ => none
  | .ok r =>
    if q.publishing && !r.isEmpty then
      match (w.arrange r).encode with
      | .error _ => none
      | .ok value => some ⟨w.producerTopic, (w.arrange r).uri, value⟩
    else none

/-- What is returned for a record whose message, if it has one, is delivered. -/
def returned (w : Worker σ) (made : Coordinate → Int → Result Revision) (q : Item) : Consumption :=
  match revisionOf made q.text with
  | .error e => ⟨none, some e⟩
  | .ok r => ⟨some (w.arrange r), none⟩

/-! ### The revision -/

theorem revisionOf_eq_ok_iff {text : String} {r : Revision} : revisionOf made text = .ok r ↔
    ∃ c time, ReleaseRecord.Announces text c time ∧ made c time = .ok r := by
  rw [revisionOf, bind_eq_ok_iff]
  constructor
  · rintro ⟨⟨c, time⟩, hannounced, hr⟩
    exact ⟨c, time, ReleaseRecord.announced_eq_ok_iff.mp hannounced, hr⟩
  · rintro ⟨c, time, hannounced, hr⟩
    exact ⟨(c, time), ReleaseRecord.announced_eq_ok_iff.mpr hannounced, hr⟩

theorem Makes.isAssembled_of_revisionOf (hmade : w.Makes made) {text : String} {r : Revision}
    (h : revisionOf made text = .ok r) : r.IsAssembled := by
  obtain ⟨c, time, -, hr⟩ := revisionOf_eq_ok_iff.mp h
  exact hmade.isAssembled c time r hr

theorem hasSortedCalls_arrange (h : w.settings.canonicalizeInternalCalls = true) (r : Revision) :
    (w.arrange r).HasSortedCalls := by
  rw [arrange, if_pos h]
  exact r.hasSortedCalls_sortInternal

/-- The message of a revision carries it. -/
theorem carries_arrange {r : Revision} (h : r.IsAssembled) {topic text : String}
    (htext : (w.arrange r).encode = .ok text) :
    Message.Carries ⟨topic, (w.arrange r).uri, text⟩ (w.arrange r) := by
  rw [arrange] at htext ⊢
  split at htext
  · next hflag =>
    rw [if_pos hflag]
    exact h.isSound.sortInternal.carries h.isFloatFree htext
  · next hflag =>
    rw [if_neg hflag]
    exact h.isSound.carries h.isFloatFree htext

/-! ### What is published -/

theorem published?_of_error {q : Item} {e : Fault} (h : revisionOf made q.text = .error e) :
    w.published? made q = none := by
  rw [published?, h]

theorem published?_of_ok {q : Item} {r : Revision} (h : revisionOf made q.text = .ok r)
    {value : String} (hvalue : (w.arrange r).encode = .ok value) : w.published? made q =
      if q.publishing && !r.isEmpty then some ⟨w.producerTopic, (w.arrange r).uri, value⟩
      else none := by
  rw [published?, h]
  exact messageOf_ok hvalue

/-- **A record has a message when it is to be published and its call graph has an edge.** -/
theorem Makes.isSome_published?_iff (hmade : w.Makes made) {q : Item} :
    (w.published? made q).isSome ↔ q.publishing = true ∧ ∃ c time r,
      ReleaseRecord.Announces q.text c time ∧ made c time = .ok r ∧ r.isEmpty = false := by
  cases hr : revisionOf made q.text with
  | error e =>
    rw [published?_of_error hr]
    refine iff_of_false (by simp) ?_
    rintro ⟨-, c, time, r, hannounces, hmade, -⟩
    rw [revisionOf_eq_ok_iff.mpr ⟨c, time, hannounces, hmade⟩] at hr
    cases hr
  | ok r =>
    obtain ⟨value, hvalue⟩ :=
      exists_encode_arrange (w := w) (hmade.isAssembled_of_revisionOf hr).exists_encode
    rw [published?_of_ok hr hvalue]
    -- a text announces one release only, so what is made of it is the revision at hand
    have hunique : ∀ c time r', ReleaseRecord.Announces q.text c time → made c time = .ok r' →
        r' = r := by
      intro c time r' hannounces hr'
      rw [revisionOf_eq_ok_iff.mpr ⟨c, time, hannounces, hr'⟩] at hr
      exact Except.ok.inj hr
    obtain ⟨c, time, hannounces, hr'⟩ := revisionOf_eq_ok_iff.mp hr
    constructor
    · intro hsome
      split at hsome
      · next hpublish =>
        rw [Bool.and_eq_true, Bool.not_eq_true'] at hpublish
        exact ⟨hpublish.1, c, time, r, hannounces, hr', hpublish.2⟩
      · cases hsome
    · rintro ⟨hpublishing, c', time', r', hannounces', hr'', hempty⟩
      obtain rfl := hunique c' time' r' hannounces' hr''
      rw [hpublishing, hempty]
      rfl

/-- **The message of a record carries what is returned for it**, with its calls in order where that
is set. -/
theorem Makes.carries_of_published? (hmade : w.Makes made) {q : Item} {m : Message}
    (hm : w.published? made q = some m) : m.topic = w.producerTopic ∧ ∃ c time r,
      ReleaseRecord.Announces q.text c time ∧ made c time = .ok r ∧
      w.returned made q = ⟨some (w.arrange r), none⟩ ∧ m.Carries (w.arrange r) ∧
      (w.settings.canonicalizeInternalCalls = true → (w.arrange r).HasSortedCalls) := by
  cases hr : revisionOf made q.text with
  | error e =>
    rw [published?_of_error hr] at hm
    cases hm
  | ok r =>
    have hassembled := hmade.isAssembled_of_revisionOf hr
    obtain ⟨value, hvalue⟩ := exists_encode_arrange (w := w) hassembled.exists_encode
    rw [published?_of_ok hr hvalue] at hm
    split at hm <;> cases hm
    obtain ⟨c, time, hannounces, hr'⟩ := revisionOf_eq_ok_iff.mp hr
    refine ⟨rfl, c, time, r, hannounces, hr', ?_, carries_arrange hassembled hvalue,
      fun hflag ↦ hasSortedCalls_arrange hflag r⟩
    rw [returned, hr]

/-! ### One step -/

/-- **One record, whatever the state.**  The worker goes to the producer and hands over the message
of the record, if it has one; and if that is delivered it returns what there is of the record. -/
theorem consume_eq (hmade : w.Makes made) (s : State σ) (q : Item) :
    (w.consume s q.text q.publishing).1 =
      w.handOver (w.afterMaking s q.text) (w.published? made q) ∧
    ((∀ m, w.published? made q = some m →
        w.delivery (w.afterMaking s q.text) m = .ok .delivered) →
      (w.consume s q.text q.publishing).2.1 = w.returned made q) := by
  have hmaking : w.making s q.text = revisionOf made q.text := by
    simp only [making, revisionOf, hmade.result_eq]
  have hencode : ∀ r, w.making s q.text = .ok r → ∃ value, r.encode = .ok value := fun r hr ↦
    (hmade.isAssembled_of_revisionOf (hmaking ▸ hr)).exists_encode
  have hmessage : w.messageOf q.publishing (w.making s q.text) = w.published? made q := by
    rw [hmaking, published?]
    cases revisionOf made q.text <;> rfl
  have hreturned : w.outcomeOf (w.making s q.text) = w.returned made q := by
    rw [hmaking, returned]
    cases revisionOf made q.text <;> rfl
  rw [← hmessage, ← hreturned]
  exact consume_eq_of_making hencode q.publishing

/-! ## Whole runs -/

/-- Deals with one record after the other. -/
def consumeAll (w : Worker σ) : State σ → List Item → State σ × List Consumption
  | s, [] => (s, [])
  | s, q :: rest =>
    let (s, consumption, _) := w.consume s q.text q.publishing
    let (s, consumptions) := w.consumeAll s rest
    (s, consumption :: consumptions)

/-- Whatever is handed over in the course of a run is delivered. -/
def Delivers (w : Worker σ) (made : Coordinate → Int → Result Revision) : State σ → List Item → Prop
  | _, [] => True
  | s, q :: rest =>
    (∀ m, w.published? made q = some m →
      w.delivery (w.afterMaking s q.text) m = .ok .delivered) ∧
    w.Delivers made (w.consume s q.text q.publishing).1 rest

/-- Whatever is handed over to an open publisher in memory is delivered. -/
theorem delivers_of_memory (hmade : w.Makes made) {p : MemoryPublisher}
    (hs : s.publisher = .memory p) (hopen : p.closed = false) (hfree : p.obstacle = none)
    (items : List Item) : w.Delivers made s items := by
  induction items generalizing s p with
  | nil => exact trivial
  | cons q rest ih =>
    have hmaking : (w.afterMaking s q.text).publisher = .memory p :=
      (publisher_afterMaking s q.text).trans hs
    have hdelivered := delivery_of_open (w := w) hmaking hopen hfree
    refine ⟨fun m _ ↦ hdelivered m, ?_⟩
    rw [(consume_eq hmade s q).1]
    cases w.published? made q with
    | none => exact ih hmaking hopen hfree
    | some m =>
      exact ih (publisher_handOver hmaking (hdelivered m)) hopen hfree

theorem fst_consumeAll (hmade : w.Makes made) (s : State σ) (items : List Item) :
    (w.consumeAll s items).1 =
      items.foldl (fun s q ↦ w.handOver (w.afterMaking s q.text) (w.published? made q)) s := by
  induction items generalizing s with
  | nil => rfl
  | cons q rest ih =>
    rw [List.foldl_cons, ← (consume_eq hmade s q).1]
    exact ih _

theorem snd_consumeAll (hmade : w.Makes made) {items : List Item}
    (hdelivers : w.Delivers made s items) :
    (w.consumeAll s items).2 = items.map (w.returned made) := by
  induction items generalizing s with
  | nil => rfl
  | cons q rest ih =>
    obtain ⟨hnow, hlater⟩ := hdelivers
    rw [List.map_cons, ← (consume_eq hmade s q).2 hnow, ← ih hlater]
    rfl

/-- A publisher in memory keeps the messages of a run in the order of its records. -/
theorem publisher_consumeAll (hmade : w.Makes made) {items : List Item}
    (hdelivers : w.Delivers made s items) {p : MemoryPublisher} (hs : s.publisher = .memory p) :
    (w.consumeAll s items).1.publisher =
      .memory { p with messages := p.messages ++ items.filterMap (w.published? made) } := by
  induction items generalizing s p with
  | nil => rw [List.filterMap_nil, List.append_nil]; exact hs
  | cons q rest ih =>
    obtain ⟨hnow, hlater⟩ := hdelivers
    have hmaking : (w.afterMaking s q.text).publisher = .memory p :=
      (publisher_afterMaking s q.text).trans hs
    have hstep := (consume_eq hmade s q).1
    cases hm : w.published? made q with
    | none =>
      rw [hm, handOver] at hstep
      rw [List.filterMap_cons_none hm]
      exact ih hlater (hstep ▸ hmaking)
    | some m =>
      have hlast := publisher_handOver hmaking (hnow m hm)
      rw [hm] at hstep
      rw [List.filterMap_cons_some hm, List.append_cons]
      exact ih hlater (hstep ▸ hlast)

/-- **What a run publishes and returns.**  The messages are those of its records, in their order:
one for each record that announces a release whose call graph has an edge, if it is to be published,
and none for any other.  Each carries what is returned for its record.  Neither depends on the
records before it. -/
theorem consumeAll_publishes (hmade : w.Makes made) {items : List Item}
    (hdelivers : w.Delivers made s items) :
    (w.consumeAll s items).1 =
      items.foldl (fun s q ↦ w.handOver (w.afterMaking s q.text) (w.published? made q)) s ∧
    (∀ p, s.publisher = .memory p → (w.consumeAll s items).1.publisher =
      .memory { p with messages := p.messages ++ items.filterMap (w.published? made) }) ∧
    (w.consumeAll s items).2 = items.map (w.returned made) ∧
    ∀ q, ((w.published? made q).isSome ↔ q.publishing = true ∧ ∃ c time r,
        ReleaseRecord.Announces q.text c time ∧ made c time = .ok r ∧ r.isEmpty = false) ∧
      ∀ m, w.published? made q = some m → m.topic = w.producerTopic ∧ ∃ c time r,
        ReleaseRecord.Announces q.text c time ∧ made c time = .ok r ∧
        w.returned made q = ⟨some (w.arrange r), none⟩ ∧ m.Carries (w.arrange r) ∧
        (w.settings.canonicalizeInternalCalls = true → (w.arrange r).HasSortedCalls) :=
  ⟨fst_consumeAll hmade s items, fun _ hs ↦ publisher_consumeAll hmade hdelivers hs,
    snd_consumeAll hmade hdelivers, fun _ ↦ ⟨hmade.isSome_published?_iff,
      fun _ hm ↦ hmade.carries_of_published? hm⟩⟩

/-- A type with two methods that call each other. -/
def sampleHistory : List Assembly.Operation :=
  let type : Identifier := .sampleOwner
  let first : Identifier := .sampleCaller
  let second : Identifier := .sampleCallee
  [.addType type "A.java" [] [], .addMethod type first, .addMethod type second,
    .addCall second first "static", .addCall first second "static"]

/-- A revision with calls. -/
def sampleRevision : Result Revision :=
  ((Assembly.run sampleHistory).build ⟨"mvn", "g:a", "1.0", "OPAL", 0, []⟩).2

/-- Makes the call graph of one version only. -/
def sampleMade (c : Coordinate) (_ : Int) : Result Revision :=
  if c.version = "1.0" then sampleRevision
  else .error (.analysis (.artifactMissing c.text ""))

/-- A worker that makes one call graph for one version and none for others. -/
def sampleWorker : Worker Unit where
  producer := ⟨"OPAL", fun site c time ↦ (site, ⟨sampleMade c time, []⟩)⟩
  settings := {}
  directory := []

/-- The record of a version. -/
def sampleRecord (version : String) : String :=
  "\x7b\"groupId\":\"g\",\"artifactId\":\"a\",\"version\":\"" ++ version ++ "\"\x7d"

/-- No record, a record of a version that cannot be had, and one that can, twice. -/
def sampleItems : List Item :=
  [⟨"[]", true⟩, ⟨sampleRecord "2.0", true⟩, ⟨sampleRecord "1.0", true⟩,
    ⟨sampleRecord "1.0", false⟩]

theorem exists_sampleRevision : ∃ r text,
    sampleRevision = .ok r ∧ r.isEmpty = false ∧ r.IsFloatFree ∧ r.encode = .ok text :=
  ⟨_, _, Assembly.build_eq_ok_iff.mpr ⟨_, rfl, ⟨by decide, by decide, by decide, by decide⟩, rfl,
      ⟨by decide, by decide⟩⟩, rfl, by decide,
    Revision.encode_eq_ok_iff.mpr ⟨by decide +kernel, Revision.isWritable_toJson_iff.mpr
      ⟨by decide +kernel, by decide +kernel, by decide +kernel⟩, rfl⟩⟩

theorem isAssembled_sampleRevision {r : Revision} (h : sampleRevision = .ok r) :
    r.IsAssembled := by
  obtain ⟨r', text, hr, -, hfloat, htext⟩ := exists_sampleRevision
  obtain rfl : r' = r := Except.ok.inj (hr.symm.trans h)
  exact ⟨⟨_, _, h, List.forall_mem_nil _, List.forall_mem_nil _⟩, hfloat, text, htext⟩

theorem makes_sampleMade : sampleWorker.Makes sampleMade where
  result_eq _ _ _ := rfl
  isAssembled c time r hr := by
    rw [sampleMade] at hr
    split at hr
    · exact isAssembled_sampleRevision hr
    · cases hr

theorem revisionOf_sampleRecord : revisionOf sampleMade (sampleRecord "1.0") = sampleRevision := by
  have hannounced : ReleaseRecord.announced (sampleRecord "1.0") =
      .ok (⟨"g", "a", "1.0"⟩, -1) := by
    decide +kernel
  rw [revisionOf, bind_of_eq_ok hannounced]
  simp only [sampleMade, if_true]

theorem exists_published?_sampleItems : ∃ m,
    sampleItems.filterMap (sampleWorker.published? sampleMade) = [m] ∧
      sampleWorker.published? sampleMade ⟨sampleRecord "1.0", true⟩ = some m := by
  have hnone : sampleWorker.published? sampleMade ⟨"[]", true⟩ = none := by
    have hrefused : revisionOf sampleMade "[]" = .error (.format (.recordNotObject "[]")) := by
      decide +kernel
    exact published?_of_error (q := ⟨"[]", true⟩) hrefused
  have hmissing : sampleWorker.published? sampleMade ⟨sampleRecord "2.0", true⟩ = none := by
    have hrefused : revisionOf sampleMade (sampleRecord "2.0") =
        .error (.analysis (.artifactMissing "g:a:2.0" "")) := by
      decide +kernel
    exact published?_of_error (q := ⟨sampleRecord "2.0", true⟩) hrefused
  obtain ⟨r, -, hr, hempty, -⟩ := exists_sampleRevision
  have hfound := revisionOf_sampleRecord.trans hr
  obtain ⟨value, hvalue⟩ :=
    exists_encode_arrange (w := sampleWorker) (isAssembled_sampleRevision hr).exists_encode
  have hyes := published?_of_ok (q := ⟨sampleRecord "1.0", true⟩) hfound hvalue
  have hno := published?_of_ok (q := ⟨sampleRecord "1.0", false⟩) hfound hvalue
  simp only [hempty, Bool.not_false, Bool.and_true, if_true] at hyes
  simp only [Bool.false_and, Bool.false_eq_true, if_false] at hno
  refine ⟨_, ?_, hyes⟩
  rw [sampleItems, List.filterMap_cons_none hnone, List.filterMap_cons_none hmissing,
    List.filterMap_cons_some hyes, List.filterMap_cons_none hno, List.filterMap_nil]

theorem consumeAll_publishes_sample : ∃ m r,
    (sampleWorker.consumeAll ⟨⟨.empty, ()⟩, .memory {}⟩ sampleItems).1.publisher =
      .memory { messages := [m] } ∧
    sampleRevision = .ok r ∧ m.topic = "opal_callgraphs" ∧ m.Carries r.sortInternal ∧
      r.sortInternal.HasSortedCalls := by
  have hdelivers : sampleWorker.Delivers sampleMade ⟨⟨.empty, ()⟩, .memory {}⟩ sampleItems :=
    delivers_of_memory makes_sampleMade rfl rfl rfl sampleItems
  obtain ⟨-, hmessages, -, hitem⟩ := consumeAll_publishes makes_sampleMade hdelivers
  obtain ⟨m, hsingle, hm⟩ := exists_published?_sampleItems
  obtain ⟨htopic, c, time, r, -, hr, -, hcarries, hsorted⟩ := (hitem _).2 m hm
  rw [sampleMade] at hr
  split at hr
  · refine ⟨m, r, ?_, hr, htopic, hcarries, hsorted rfl⟩
    rw [hmessages _ rfl, hsingle]
    rfl
  · cases hr

end Worker

end RevisionGraph
