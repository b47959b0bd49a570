import RevisionGraph.Proofs.Revision.Shape

/-!
# Building a revision and reading it

The same fields make a revision in two ways: a draft of them is built, or a document that has them
is read.  Both ways check that the parts fit together, and each has a demand of its own.

* **Building** wants the fields that name the release and the generator to be filled in:
  `Parts.build_draft_eq_ok_iff`.
* **Reading** wants ids that can be written and read back, `MethodId.IsReadable`.  That this is all
  it wants is `Json.Carries.ofJson_eq_ok_iff`; the lemmas before it are the converses, layer by
  layer, of those about documents that were encoded.

Where both demands are met the two ways agree, and whenever both give a revision it is the same:
`build_iff_ofJson`.
-/

set_option autoImplicit false

namespace RevisionGraph

open Result OrderedMap

/-! ## Ids that are read back -/

/-- **The text of an id is read exactly when the id is readable**, and gives the id. -/
theorem MethodId.ofText_toString_eq_ok_iff {id id' : MethodId} :
    MethodId.ofText (toString id) = .ok id' ↔ id.IsReadable ∧ id' = id := by
  constructor
  · intro h
    obtain ⟨hdecimal, hlength, -⟩ := MethodId.ofText_eq_ok_iff.mp h
    rcases Int.lt_or_le id 0 with hneg | hpos
    · -- a sign is no digit
      rw [Text.toList_toString_of_neg hneg] at hdecimal
      exact absurd hdecimal (by simp [Text.isDecimal])
    · have hreadable : id.IsReadable := by
        rw [← String.length_toList, Text.toList_toString_of_nonneg hpos] at hlength
        refine ⟨hpos, ?_⟩
        rw [Text.isWritable, decide_eq_true_eq]
        exact (Nat.length_toDigits_le_iff (by decide) (by decide)).mp hlength
      rw [hreadable.ofText_toString] at h
      cases h
      exact ⟨hreadable, rfl⟩
  · rintro ⟨hreadable, rfl⟩
    exact hreadable.ofText_toString

/-- A type that is read back has readable ids. -/
theorem TypeInfo.isReadable_of_ofJson_toJson {t t' : TypeInfo} (h : ofJson t.toJson = .ok t') :
    ∀ id ∈ t.methods.keys, id.IsReadable := by
  intro id hid
  obtain ⟨method, hm⟩ := mem_keys_iff.mp hid
  obtain ⟨members, l, hmembers, hl, -⟩ := methods_of_ofJson h
  have hwritten : (toString id, method.toJson) ∈ members := by
    cases hmembers
    exact List.mem_map.mpr ⟨(id, method), List.mem_mergeSort.mpr hm, rfl⟩
  obtain ⟨e, -, he⟩ := exists_right_of_forall₂ hl hwritten
  exact (MethodId.ofText_toString_eq_ok_iff.mp (methodOfMember_eq_ok_iff.mp he).1).1

/-- **A hierarchy is read back exactly when its ids are readable**, in canonical form. -/
theorem Hierarchy.ofMembers_sortedTypes_eq_ok_iff {h h' : Hierarchy} :
    ofMembers (h.sortedTypes.map fun e ↦ (e.1.text, e.2.toJson)) = .ok h' ↔
      (∀ id ∈ h.ids, id.IsReadable) ∧ h' = h.canonical := by
  constructor
  · intro hread
    have hids : ∀ id ∈ h.ids, id.IsReadable := by
      intro id hid
      rw [ids_eq, List.mem_flatMap] at hid
      obtain ⟨e, he, hid⟩ := hid
      rw [ofMembers, bind_eq_ok_iff] at hread
      obtain ⟨l, hl, -⟩ := hread
      rw [mapM_eq_ok_iff] at hl
      obtain ⟨e', -, hm⟩ := exists_right_of_forall₂ hl
        (List.mem_map_of_mem (List.mem_mergeSort.mpr he))
      exact TypeInfo.isReadable_of_ofJson_toJson (typeOfMember_eq_ok_iff.mp hm).2 id hid
    rw [ofMembers_sortedTypes hids] at hread
    cases hread
    exact ⟨hids, rfl⟩
  · rintro ⟨hids, rfl⟩
    exact ofMembers_sortedTypes hids

/-! ## Calls that are read back -/

theorem isReadable_of_externalOfJson {id : MethodId} {target : Identifier} {t : Tally}
    {e : ExternalKey × Tally}
    (h : externalOfJson (.array [.text (toString id), target.toJson, Tally.toJson t]) = .ok e) :
    id.IsReadable := by
  rw [Tally.toJson, externalOfJson, bind_eq_ok_iff] at h
  obtain ⟨_, -, h⟩ := h
  rw [bind_eq_ok_iff] at h
  obtain ⟨source, hsource, -⟩ := h
  rw [MethodId.ofJson] at hsource
  exact (MethodId.ofText_toString_eq_ok_iff.mp hsource).1

/-- **A call graph is read back exactly when its ids are**, in canonical form; the ids of internal
calls are written as integers and may be long. -/
theorem CallGraph.ofJson_toJson_eq_ok_iff {g g' : CallGraph} : ofJson g.toJson = .ok g' ↔
    (∀ c ∈ g.internal, 0 ≤ c.source ∧ 0 ≤ c.target) ∧
      (∀ k ∈ g.external.keys, k.source.IsReadable) ∧ g' = g.canonical := by
  constructor
  · intro h
    obtain ⟨internal, external, hinternal, hexternal, hcalls, hentries⟩ := ofJson_eq_ok_iff.mp h
    cases hinternal
    cases hexternal
    have hint : ∀ c ∈ g.internal, 0 ≤ c.source ∧ 0 ≤ c.target := by
      intro c hc
      obtain ⟨c', -, hread⟩ := exists_right_of_forall₂ hcalls (List.mem_map_of_mem hc)
      obtain ⟨heq, hsource, htarget⟩ := InternalCall.isInternalCall_of_ofJson hread
      simp only [Json.array.injEq, List.cons.injEq, Json.int.injEq, and_true] at heq
      exact ⟨heq.1 ▸ hsource, heq.2 ▸ htarget⟩
    have hext : ∀ k ∈ g.external.keys, k.source.IsReadable := by
      intro k hk
      obtain ⟨t, he⟩ := mem_keys_iff.mp hk
      obtain ⟨e, -, hread⟩ := exists_right_of_forall₂ hentries
        (List.mem_map_of_mem (List.mem_mergeSort.mpr he))
      exact isReadable_of_externalOfJson hread
    rw [ofJson_toJson hint hext] at h
    cases h
    exact ⟨hint, hext, rfl⟩
  · rintro ⟨hint, hext, rfl⟩
    exact ofJson_toJson hint hext

namespace Revision

/-! ## Reading -/

/-- **A document that has given fields is read** exactly when its ids are readable and its parts fit
together, and gives the revision of these fields in canonical form. -/
theorem ofJson_of_carries_eq_ok_iff {v : Json} {p : Parts} (hv : v.Carries p)
    (hgroups : ∀ g ∈ p.dependencies, Dependencies.IsGroup g) {s : Revision} :
    ofJson v = .ok s ↔ (∀ id ∈ p.hierarchy.ids, id.IsReadable) ∧ p.unchecked.IsValid ∧
      s = p.unchecked.canonical := by
  constructor
  · intro h
    obtain ⟨q, hq, rfl, hvalid⟩ := ofJson_eq_ok_iff.mp h
    obtain ⟨hheader, htime, ⟨groups, hdepset, hdeps⟩, ⟨members, hcha, hhierarchy⟩, graph,
      ⟨hgraph, -⟩, hcalls⟩ := partsOfJson_eq_ok_iff.mp hq
    obtain ⟨time, htime', hstamp⟩ := exists_timeOfJson_of_carries hv
    have hnames := Except.ok.inj (hheader.symm.trans (headerOfJson_of_carries hv))
    simp only [Prod.mk.injEq] at hnames
    have htimes : q.time = time := Except.ok.inj (htime.symm.trans htime')
    cases hv.dependencies.symm.trans hdepset
    cases hv.hierarchy.symm.trans hcha
    cases hv.calls.symm.trans hgraph
    obtain ⟨hdeps, -⟩ := Dependencies.ofItems_eq_ok_iff.mp hdeps
    obtain ⟨hids, hhierarchy⟩ := Hierarchy.ofMembers_sortedTypes_eq_ok_iff.mp hhierarchy
    obtain ⟨-, -, hcalls⟩ := CallGraph.ofJson_toJson_eq_ok_iff.mp hcalls
    -- every field that was read is the field that was written, or its canonical form
    have hread : q.unchecked = p.unchecked.canonical := by
      rw [canonical, Parts.unchecked, Parts.unchecked, hnames.1, hnames.2.1, hnames.2.2.1,
        hnames.2.2.2, htimes, hstamp, hdeps, hhierarchy, hcalls]
    rw [hread] at hvalid ⊢
    exact ⟨hids, isValid_canonical_iff.mp hvalid, rfl⟩
  · rintro ⟨hids, hvalid, rfl⟩
    exact ofJson_of_carries hv hvalid hgroups hids

/-! ## The two ways -/

/-- **Building and reading agree** on fields whose names are filled in and whose ids are readable.
Empty names are refused by building alone, and ids that are not readable are not read; where both
ways give a revision, they give the same. -/
theorem build_iff_ofJson {p : Parts} {v : Json} (hv : v.Carries p)
    (hgroups : ∀ g ∈ p.dependencies, Dependencies.IsGroup g) :
    (¬ p.IsNamed → p.draft.build = .error (.format (.revisionIncomplete p.emptyNames))) ∧
    ((∃ id ∈ p.hierarchy.ids, ¬ id.IsReadable) → ∀ s, ofJson v ≠ .ok s) ∧
    (p.IsNamed → (∀ id ∈ p.hierarchy.ids, id.IsReadable) →
      ((∃ r, p.draft.build = .ok r) ↔ ∃ s, ofJson v = .ok s)) ∧
    ∀ r s, p.draft.build = .ok r → ofJson v = .ok s →
      s.Same r ∧ s.calls.internal = r.calls.internal := by
  refine ⟨Parts.build_draft_of_not_isNamed, ?_, ?_, ?_⟩
  · rintro ⟨id, hid, hno⟩ s hs
    exact hno (((ofJson_of_carries_eq_ok_iff hv hgroups).mp hs).1 id hid)
  · intro hnamed hids
    simp only [Parts.build_draft_eq_ok_iff, ofJson_of_carries_eq_ok_iff hv hgroups]
    constructor
    · rintro ⟨_, -, rfl, hvalid⟩
      exact ⟨_, hids, hvalid, rfl⟩
    · rintro ⟨_, -, hvalid, -⟩
      exact ⟨_, hnamed, rfl, hvalid⟩
  · intro r s hr hs
    obtain ⟨-, rfl, -⟩ := Parts.build_draft_eq_ok_iff.mp hr
    obtain ⟨-, -, rfl⟩ := (ofJson_of_carries_eq_ok_iff hv hgroups).mp hs
    exact canonical_eq_iff_same.mp (canonical_eq_iff_same.mpr ⟨same_canonical _, rfl⟩)

/-- One type with one method that calls itself, at a time that is not known. -/
def sampleParts (forge : String) : Parts where
  forge := forge
  product := "g:a"
  version := "1.0"
  generator := "OPAL"
  time := -5
  dependencies := [.array [.object [("artifactId", .text "b")]]]
  hierarchy := .ofList [(.sampleOwner, {
    sourceFile := "A.java"
    methods := .ofList [(1, .sampleCaller)]
    superClasses := []
    superInterfaces := [] })]
  calls := ⟨[⟨1, 1⟩], .empty⟩

theorem carries_sampleParts (forge : String) :
    (sampleParts forge).unchecked.toJson.Carries (sampleParts forge) :=
  ⟨rfl, rfl, rfl, rfl, .inr ⟨rfl, (by decide : (-5 : Int) < 0)⟩, rfl, rfl, rfl⟩

theorem isGroup_sampleParts (forge : String) :
    ∀ g ∈ (sampleParts forge).dependencies, Dependencies.IsGroup g := by
  intro g hg
  rw [List.mem_singleton.mp hg]
  exact ⟨_, rfl, by simp⟩

theorem isReadable_sampleParts (forge : String) :
    ∀ id ∈ (sampleParts forge).hierarchy.ids, id.IsReadable := by
  intro id hid
  have hone : (sampleParts forge).hierarchy.ids = [1] := rfl
  rw [hone, List.mem_singleton] at hid
  exact hid ▸ ⟨by decide, by decide +kernel⟩

theorem isValid_sampleParts (forge : String) : (sampleParts forge).unchecked.IsValid := by
  have hone : (sampleParts forge).unchecked.hierarchy.ids = [1] := rfl
  have hends : (sampleParts forge).unchecked.calls.endpoints = [1, 1] := rfl
  constructor
  · rw [hone]
    decide
  · rw [hone, hends]
    decide

theorem build_iff_ofJson_sample :
    ∃ r s, (sampleParts "mvn").draft.build = .ok r ∧
      ofJson (sampleParts "mvn").unchecked.toJson = .ok s ∧
        s.Same r ∧ s.calls.internal = r.calls.internal := by
  have hbuild := Parts.build_draft_eq_ok_iff.mpr ⟨by decide, rfl, isValid_sampleParts "mvn"⟩
  obtain ⟨-, -, hagree, hsame⟩ :=
    build_iff_ofJson (carries_sampleParts "mvn") (isGroup_sampleParts "mvn")
  obtain ⟨s, hs⟩ := (hagree (by decide) (isReadable_sampleParts "mvn")).mp ⟨_, hbuild⟩
  exact ⟨_, s, hbuild, hs, hsame _ s hbuild hs⟩

/-- **The two ways need not agree**: a document whose forge is empty is read, and the draft with the
same fields is not built. -/
theorem exists_read_not_built : ∃ (p : Parts) (v : Json), v.Carries p ∧
    (∀ g ∈ p.dependencies, Dependencies.IsGroup g) ∧
      (∃ s, ofJson v = .ok s) ∧ ¬ ∃ r, p.draft.build = .ok r := by
  refine ⟨sampleParts "", _, carries_sampleParts "", isGroup_sampleParts "", ?_, ?_⟩
  · exact ⟨_, ofJson_of_carries (carries_sampleParts "") (isValid_sampleParts "")
      (isGroup_sampleParts "") (isReadable_sampleParts "")⟩
  · rintro ⟨r, hr⟩
    exact absurd (Parts.build_draft_eq_ok_iff.mp hr).1 (by decide)

end Revision

end RevisionGraph
