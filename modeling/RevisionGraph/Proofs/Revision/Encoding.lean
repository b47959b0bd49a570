import RevisionGraph.Proofs.Json.RoundTrip
import RevisionGraph.Proofs.Revision.Decoding

/-!
# Documents that revisions are encoded to

The document of a revision is made of objects with distinct keys, arrays, texts and integers, the
dependencies apart, which are what they were.  So a condition on documents that such values satisfy
holds everywhere in it when it holds in the dependencies: `Revision.everywhere_toJson`.  Distinct
keys and the absence of floating point numbers are two such conditions, and with them the text of a
revision is read back: `Revision.decode_of_encode`.
-/

set_option autoImplicit false

namespace RevisionGraph

open Result Json

/-- Texts, integers, arrays and objects with distinct keys satisfy the condition. -/
structure Json.IsPlain (p : Json → Bool) : Prop where
  text : ∀ s, p (.text s) = true
  int : ∀ i, p (.int i) = true
  array : ∀ items, p (.array items) = true
  object : ∀ members : List (String × Json), (members.map Prod.fst).Nodup →
    p (.object members) = true

theorem Json.isPlain_hasOwnKeys : IsPlain hasOwnKeys where
  text _ := rfl
  int _ := rfl
  array _ := rfl
  object _ h := decide_eq_true h

theorem Json.isPlain_isNoFloat : IsPlain isNoFloat where
  text _ := rfl
  int _ := rfl
  array _ := rfl
  object _ _ := rfl

section

variable {p : Json → Bool}

theorem Json.IsPlain.everywhere_object (hp : IsPlain p) {members : List (String × Json)}
    (hkeys : (members.map Prod.fst).Nodup) (h : ∀ m ∈ members, everywhere p m.2 = true) :
    everywhere p (.object members) = true :=
  everywhere_object_iff.mpr ⟨hp.object members hkeys, h⟩

theorem Json.IsPlain.everywhere_array (hp : IsPlain p) {items : List Json}
    (h : ∀ v ∈ items, everywhere p v = true) : everywhere p (.array items) = true :=
  everywhere_array_iff.mpr ⟨hp.array items, h⟩

theorem Json.IsPlain.everywhere_text (hp : IsPlain p) (s : String) :
    everywhere p (.text s) = true := by
  rw [everywhere]
  · exact hp.text s
  · rintro _ ⟨⟩
  · rintro _ ⟨⟩

theorem Json.IsPlain.everywhere_int (hp : IsPlain p) (i : Int) :
    everywhere p (.int i) = true := by
  rw [everywhere]
  · exact hp.int i
  · rintro _ ⟨⟩
  · rintro _ ⟨⟩

/-! ## The layers of a document -/

/-- Ids that are not negative have texts of their own. -/
theorem MethodId.eq_of_toString_eq {i j : MethodId} (hi : 0 ≤ i) (hj : 0 ≤ j)
    (h : toString i = toString j) : i = j := by
  have hlist := congrArg String.toList h
  rw [Text.toList_toString_of_nonneg hi, Text.toList_toString_of_nonneg hj] at hlist
  have hread := congrArg Text.readDecimal hlist
  rw [Text.readDecimal_toDigits, Text.readDecimal_toDigits] at hread
  rw [← Int.natAbs_of_nonneg hi, ← Int.natAbs_of_nonneg hj, hread]

theorem TypeInfo.everywhere_toJson (hp : IsPlain p) {t : TypeInfo}
    (hids : ∀ id ∈ t.methods.keys, 0 ≤ id) : everywhere p t.toJson = true := by
  have hmem : ∀ m ∈ t.sortedMethods, 0 ≤ m.1 := fun m hm ↦
    hids m.1 (List.mem_map_of_mem (List.mem_mergeSort.mp hm))
  have hmethods : everywhere p
      (.object (t.sortedMethods.map fun m ↦ (toString m.1, m.2.toJson))) = true := by
    refine hp.everywhere_object ?_ ?_
    · have hkeys : (t.sortedMethods.map Prod.fst).Nodup := t.canonical.methods.nodup_keys
      rw [List.Nodup, List.map_map, List.pairwise_map] at *
      refine hkeys.imp_of_mem fun ha hb hne heq ↦ hne ?_
      exact MethodId.eq_of_toString_eq (hmem _ ha) (hmem _ hb) heq
    · rw [List.forall_mem_map]
      exact fun m _ ↦ hp.everywhere_text _
  have hnames : ∀ l : List Identifier,
      everywhere p (.array (l.map Identifier.toJson)) = true := fun l ↦ by
    refine hp.everywhere_array ?_
    rw [List.forall_mem_map]
    exact fun i _ ↦ hp.everywhere_text _
  rw [toJson]
  refine hp.everywhere_object (by simp) ?_
  simp only [List.forall_mem_cons]
  exact ⟨hp.everywhere_text _, hmethods, hnames _, hnames _, by simp⟩

theorem Hierarchy.everywhere_toJson (hp : IsPlain p) {h : Hierarchy}
    (hids : ∀ id ∈ h.ids, 0 ≤ id) : everywhere p h.toJson = true := by
  rw [toJson]
  refine hp.everywhere_object ?_ ?_
  · have hkeys : (h.canonical.entries.map Prod.fst).Nodup := h.canonical.nodup_keys
    rw [entries_canonical] at hkeys
    rw [List.map_map] at *
    have htexts := hkeys.map (f := Identifier.text) fun _ _ ↦ Identifier.ext
    rwa [List.map_map] at htexts
  · rw [List.forall_mem_map]
    intro e he
    refine TypeInfo.everywhere_toJson hp fun id hid ↦ hids id ?_
    rw [ids_eq, List.mem_flatMap]
    exact ⟨e, List.mem_mergeSort.mp he, hid⟩

theorem Tally.everywhere_toJson (hp : IsPlain p) (t : Tally) :
    everywhere p (Tally.toJson t) = true := by
  rw [toJson]
  refine hp.everywhere_object ?_ ?_
  · rw [List.map_map]
    exact (canonical t).nodup_keys
  · rw [List.forall_mem_map]
    exact fun e _ ↦ hp.everywhere_text _

theorem CallGraph.everywhere_toJson (hp : IsPlain p) (g : CallGraph) :
    everywhere p g.toJson = true := by
  have hinternal : everywhere p
      (.array (g.internal.map fun c ↦ .array [.int c.source, .int c.target])) = true := by
    refine hp.everywhere_array ?_
    rw [List.forall_mem_map]
    intro c _
    refine hp.everywhere_array ?_
    simp only [List.forall_mem_cons]
    exact ⟨hp.everywhere_int _, hp.everywhere_int _, by simp⟩
  have hexternal : everywhere p (.array (g.sortedExternal.map fun e ↦
      .array [.text (toString e.1.source), e.1.target.toJson, Tally.toJson e.2])) = true := by
    refine hp.everywhere_array ?_
    rw [List.forall_mem_map]
    intro e _
    refine hp.everywhere_array ?_
    simp only [List.forall_mem_cons]
    exact ⟨hp.everywhere_text _, hp.everywhere_text _, Tally.everywhere_toJson hp _, by simp⟩
  rw [toJson]
  refine hp.everywhere_object (by simp) ?_
  simp only [List.forall_mem_cons]
  exact ⟨hinternal, hexternal, by simp⟩

/-- **What holds everywhere in the dependencies holds everywhere in the document.** -/
theorem Revision.everywhere_toJson (hp : IsPlain p) {r : Revision}
    (hids : ∀ id ∈ r.hierarchy.ids, 0 ≤ id) (hdeps : ∀ v ∈ r.dependencies, everywhere p v = true) :
    everywhere p r.toJson = true := by
  have hcha := Hierarchy.everywhere_toJson hp hids
  have hdepset : everywhere p (Dependencies.toJson r.dependencies) = true :=
    hp.everywhere_array hdeps
  have hgraph := CallGraph.everywhere_toJson hp r.calls
  rw [toJson]
  cases r.timestamp with
  | none =>
    refine hp.everywhere_object (by simp) ?_
    simp only [List.nil_append, List.cons_append, List.forall_mem_cons]
    exact ⟨hp.everywhere_text _, hp.everywhere_text _, hp.everywhere_text _, hp.everywhere_text _,
      hcha, hdepset, hgraph, by simp⟩
  | some t =>
    refine hp.everywhere_object (by simp) ?_
    simp only [List.nil_append, List.cons_append, List.forall_mem_cons]
    exact ⟨hp.everywhere_text _, hp.everywhere_text _, hp.everywhere_text _, hp.everywhere_text _,
      hp.everywhere_int _, hcha, hdepset, hgraph, by simp⟩

end

/-! ## Integers in a document -/

theorem Json.isWritable_text (s : String) : (text s).isWritable = true := rfl

theorem Json.isWritable_int (i : Int) : (int i).isWritable = Text.isWritable i := rfl

theorem TypeInfo.isWritable_toJson (t : TypeInfo) : t.toJson.isWritable = true := by
  simp only [toJson, isWritable_object_iff, isWritable_array_iff, List.forall_mem_cons,
    List.forall_mem_map, Identifier.toJson, isWritable_text, implies_true, and_self,
    List.not_mem_nil, false_imp_iff]

theorem Hierarchy.isWritable_toJson (h : Hierarchy) : (toJson h).isWritable = true := by
  simp only [toJson, isWritable_object_iff, List.forall_mem_map, TypeInfo.isWritable_toJson,
    implies_true]

theorem Tally.isWritable_toJson (t : Tally) : (Tally.toJson t).isWritable = true := by
  simp only [toJson, isWritable_object_iff, List.forall_mem_map, isWritable_text, implies_true]

theorem CallGraph.isWritable_toJson_iff {g : CallGraph} : g.toJson.isWritable = true ↔
    ∀ c ∈ g.internal, Text.isWritable c.source = true ∧ Text.isWritable c.target = true := by
  simp only [toJson, isWritable_object_iff, isWritable_array_iff, List.forall_mem_cons,
    List.forall_mem_map, Identifier.toJson, Tally.isWritable_toJson, isWritable_text,
    isWritable_int, implies_true, and_true, List.not_mem_nil, false_imp_iff]

/-- The document of a revision holds the integers of its time, its internal calls and its
dependencies; other ids are texts in it. -/
theorem Revision.isWritable_toJson_iff {r : Revision} : r.toJson.isWritable = true ↔
    (∀ t ∈ r.timestamp, Text.isWritable t = true) ∧
      (∀ c ∈ r.calls.internal, Text.isWritable c.source = true ∧ Text.isWritable c.target = true) ∧
      ∀ v ∈ r.dependencies, v.isWritable = true := by
  rw [← CallGraph.isWritable_toJson_iff, ← isWritable_array_iff, toJson, isWritable_object_iff,
    Dependencies.toJson]
  cases r.timestamp with
  | none =>
    simp only [List.append_nil, List.cons_append, List.nil_append, List.forall_mem_cons,
      isWritable_text, Hierarchy.isWritable_toJson, true_and, Option.not_mem_none, false_imp_iff,
      implies_true, List.not_mem_nil, and_true]
    exact and_comm
  | some t =>
    simp only [List.cons_append, List.nil_append, List.forall_mem_cons, isWritable_text,
      isWritable_int, Hierarchy.isWritable_toJson, true_and, Option.mem_some, forall_eq',
      List.not_mem_nil, false_imp_iff, implies_true, and_true]
    exact and_congr_right fun _ ↦ and_comm

/-! ## The text of a revision -/

namespace Revision

/-- A valid revision as documents hold it: its ids are not negative, and its dependencies are groups
of objects with distinct keys. -/
structure IsSound (r : Revision) : Prop extends r.IsValid where
  nonneg : ∀ id ∈ r.hierarchy.ids, 0 ≤ id
  isGroup : ∀ v ∈ r.dependencies, Dependencies.IsGroup v
  hasDistinctKeys : ∀ v ∈ r.dependencies, v.HasDistinctKeys

/-- No number in the dependencies is a floating point number. -/
def IsFloatFree (r : Revision) : Prop := ∀ v ∈ r.dependencies, v.IsFloatFree

instance (r : Revision) : Decidable r.IsFloatFree := inferInstanceAs (Decidable (∀ v ∈ _, _))

theorem encode_eq_ok_iff {r : Revision} {text : String} : r.encode = .ok text ↔
    r.hasWritableIds = true ∧ r.toJson.isWritable = true ∧ r.toJson.write .compact = text := by
  rw [encode, write?]
  split
  · split
    · simp_all
    · simp_all
  · simp_all

theorem isWritable_of_hasWritableIds {r : Revision} (h : r.hasWritableIds = true) :
    ∀ id ∈ r.hierarchy.ids, Text.isWritable id = true := by
  rw [hasWritableIds, Bool.and_eq_true, List.all_eq_true] at h
  rw [← Hierarchy.map_fst_methodEntries, List.forall_mem_map]
  exact h.1

/-- **The text of a revision is read back** as the revision, in canonical form. -/
theorem IsSound.decode_of_encode {r : Revision} (h : r.IsSound) (hfloat : r.IsFloatFree)
    {text : String} (htext : r.encode = .ok text) : decode text = .ok r.canonical := by
  obtain ⟨hids, hwritable, rfl⟩ := encode_eq_ok_iff.mp htext
  have hread : Json.read (r.toJson.write .compact) = .ok r.toJson :=
    read_write Spacing.isReadable_compact
      (everywhere_toJson isPlain_isNoFloat h.nonneg hfloat)
      (everywhere_toJson isPlain_hasOwnKeys h.nonneg h.hasDistinctKeys) hwritable
  rw [decode, readJson, hread]
  exact ofJson_toJson h.toIsValid h.isGroup fun id hid ↦
    ⟨h.nonneg id hid, isWritable_of_hasWritableIds hids id hid⟩

end Revision

end RevisionGraph
