import RevisionGraph.Proofs.Dependencies
import RevisionGraph.Proofs.Identifier
import RevisionGraph.Proofs.Json.Field
import RevisionGraph.Proofs.Revision.Canonical
import RevisionGraph.Proofs.Text.Decimal

/-!
# Decoding documents that were encoded

Every layer of a revision is read back from what it was written to, in canonical form: types,
hierarchies, calls, graphs and at last the whole document, in `Revision.ofJson_toJson`.  The readers
accept a written id when it is not negative and short enough, which is what `MethodId.IsReadable`
asks; they accept a written revision when it is valid and its dependencies have their shape.  How
the members of the document are ordered does not matter for that: `Json.Carries` asks that they are
there, and `Revision.ofJson_of_carries` is about every such document.
-/

set_option autoImplicit false

namespace RevisionGraph

open Result OrderedMap

/-! ## Ids and counts -/

theorem Count.ofMember_text (tag : String) (c : Count) :
    Count.ofMember (tag, .text c.text) = .ok (tag, c) := by
  rw [ofMember]
  simp only
  rw [dif_pos c.decimal]

/-- An id that is written and then read. -/
def MethodId.IsReadable (id : MethodId) : Prop := 0 ≤ id ∧ Text.isWritable id = true

theorem MethodId.IsReadable.ofText_toString {id : MethodId} (h : id.IsReadable) :
    MethodId.ofText (toString id) = .ok id :=
  MethodId.ofText_toString h.1 h.2

/-! ## Types -/

theorem TypeInfo.ofJson_toJson {t : TypeInfo} (hids : ∀ id ∈ t.methods.keys, id.IsReadable) :
    TypeInfo.ofJson t.toJson = .ok t.canonical := by
  have hmethods : (t.sortedMethods.map fun m ↦ (toString m.1, m.2.toJson)).mapM methodOfMember =
      .ok t.sortedMethods := by
    rw [mapM_map_eq_ok (h := id), List.map_id]
    intro m hm
    have hid : m.1 ∈ t.methods.keys :=
      List.mem_map_of_mem (f := Prod.fst) (List.mem_mergeSort.mp hm)
    rw [methodOfMember, bind_of_eq_ok m.2.ofJson_toJson,
      bind_of_eq_ok (hids m.1 hid).ofText_toString]
    rfl
  rw [ofJson, bind_of_eq_ok (Json.textField_eq_ok_iff.mpr rfl),
    bind_of_eq_ok (Json.objectField_eq_ok_iff.mpr rfl), bind_of_eq_ok hmethods,
    bind_of_eq_ok (Json.arrayField_eq_ok_iff.mpr rfl),
    bind_of_eq_ok (Identifier.mapM_ofJson_toJson _),
    bind_of_eq_ok (Json.arrayField_eq_ok_iff.mpr rfl),
    bind_of_eq_ok (Identifier.mapM_ofJson_toJson _)]
  have hsorted : OrderedMap.ofList t.sortedMethods = t.canonical.methods :=
    ofList_entries t.canonical.methods
  rw [hsorted]
  rfl

/-! ## Hierarchies -/

theorem Hierarchy.ofMembers_sortedTypes {h : Hierarchy} (hids : ∀ id ∈ h.ids, id.IsReadable) :
    ofMembers (h.sortedTypes.map fun e ↦ (e.1.text, e.2.toJson)) = .ok h.canonical := by
  have htypes : (h.sortedTypes.map fun e ↦ (e.1.text, e.2.toJson)).mapM typeOfMember =
      .ok (h.sortedTypes.map fun e ↦ (e.1, e.2.canonical)) := by
    refine mapM_map_eq_ok fun e he ↦ ?_
    have hinfo : TypeInfo.ofJson e.2.toJson = .ok e.2.canonical := by
      refine TypeInfo.ofJson_toJson fun id hid ↦ hids id ?_
      rw [ids_eq, List.mem_flatMap]
      exact ⟨e, List.mem_mergeSort.mp he, hid⟩
    rw [typeOfMember, bind_of_eq_ok hinfo, bind_of_eq_ok e.1.ofText_text]
    rfl
  rw [ofMembers, htypes, ← entries_canonical]
  exact congrArg Except.ok (ofList_entries h.canonical)

/-! ## Calls -/

theorem InternalCall.ofJson_pair {c : InternalCall} (hs : 0 ≤ c.source) (ht : 0 ≤ c.target) :
    InternalCall.ofJson (.array [.int c.source, .int c.target]) = .ok c := by
  rw [ofJson, MethodId.ofJson, if_neg (Int.not_lt.mpr hs), MethodId.ofJson,
    if_neg (Int.not_lt.mpr ht)]
  rfl

theorem externalOfJson_triple {k : ExternalKey} {t : Tally} (hs : k.source.IsReadable) :
    externalOfJson (.array [.text (toString k.source), k.target.toJson, Tally.toJson t]) =
      .ok (k, Tally.canonical t) := by
  have hcounts : ((Tally.sorted t).map fun e ↦ (e.1, Json.text e.2.text)).mapM Count.ofMember =
      .ok (Tally.sorted t) := by
    rw [mapM_map_eq_ok (h := id) fun e _ ↦ Count.ofMember_text e.1 e.2, List.map_id]
  rw [Tally.toJson, externalOfJson, bind_of_eq_ok hcounts]
  rw [MethodId.ofJson, bind_of_eq_ok hs.ofText_toString, bind_of_eq_ok k.target.ofJson_toJson]
  exact congrArg (fun m ↦ Except.ok (k, m)) (ofList_entries (Tally.canonical t))

/-- One more external call is read when it is well formed and its source and target are new. -/
theorem addExternalEntry_eq_ok_iff {m m' : OrderedMap ExternalKey Tally} {entry : Json} :
    addExternalEntry m entry = .ok m' ↔
      ∃ e, externalOfJson entry = .ok e ∧ e.1 ∉ m.keys ∧ m' = m.insert e.1 e.2 := by
  rw [addExternalEntry, bind_eq_ok_iff]
  refine exists_congr fun e ↦ and_congr_right fun _ ↦ ?_
  obtain ⟨k, t⟩ := e
  simp only
  rw [← contains_iff (k := k)]
  split
  · next hold => exact iff_of_false (by rintro ⟨⟩) fun h ↦ h.1 hold
  · next hnew =>
    rw [and_iff_right hnew]
    exact ⟨fun h ↦ by cases h; rfl, fun h ↦ by rw [h]; rfl⟩

/-- **External calls are read one behind the other** as long as each is well formed and no two share
source and target. -/
theorem foldlM_addExternalEntry_eq_ok_iff {entries : List Json}
    {m out : OrderedMap ExternalKey Tally} :
    entries.foldlM addExternalEntry m = .ok out ↔
      ∃ l, List.Forall₂ (fun entry e ↦ externalOfJson entry = .ok e) entries l ∧
        ((m.entries ++ l).map Prod.fst).Nodup ∧ out.entries = m.entries ++ l := by
  induction entries generalizing m with
  | nil =>
    simp only [List.foldlM_nil, List.forall₂_nil_left_iff, exists_eq_left, List.append_nil]
    constructor
    · intro h
      obtain rfl : m = out := by injection h
      exact ⟨m.nodup_keys, rfl⟩
    · rintro ⟨-, hout⟩
      exact congrArg Except.ok (ext hout).symm
  | cons entry rest ih =>
    -- a new key is put last, so the map grows as the list does
    have hins : ∀ e : ExternalKey × Tally, e.1 ∉ m.keys → ∀ l,
        (m.insert e.1 e.2).entries ++ l = m.entries ++ e :: l := fun e hnew l ↦ by
      have happend : (m.insert e.1 e.2).entries = m.entries ++ [e] := insertEntry_eq_append hnew
      rw [happend, List.append_assoc, List.singleton_append]
    rw [List.foldlM_cons, bind_eq_ok_iff]
    constructor
    · rintro ⟨m', hm', hrest⟩
      obtain ⟨e, hentry, hnew, rfl⟩ := addExternalEntry_eq_ok_iff.mp hm'
      obtain ⟨l, hl, hnodup, hout⟩ := ih.mp hrest
      rw [hins e hnew] at hnodup hout
      exact ⟨e :: l, .cons hentry hl, hnodup, hout⟩
    · rintro ⟨_, hl, hnodup, hout⟩
      obtain ⟨e, l, hentry, hrest, rfl⟩ := List.forall₂_cons_left_iff.mp hl
      have hnew : e.1 ∉ m.keys := by
        rw [List.map_append, List.nodup_append] at hnodup
        exact fun hm ↦ hnodup.2.2 _ hm _ (by simp) rfl
      rw [← hins e hnew] at hnodup hout
      exact ⟨_, addExternalEntry_eq_ok_iff.mpr ⟨e, hentry, hnew, rfl⟩,
        ih.mpr ⟨l, hrest, hnodup, hout⟩⟩

theorem CallGraph.ofJson_toJson {g : CallGraph}
    (hint : ∀ c ∈ g.internal, 0 ≤ c.source ∧ 0 ≤ c.target)
    (hext : ∀ k ∈ g.external.keys, k.source.IsReadable) :
    CallGraph.ofJson g.toJson = .ok g.canonical := by
  have hinternal : (g.internal.map fun c ↦ Json.array [.int c.source, .int c.target]).mapM
      InternalCall.ofJson = .ok g.internal := by
    have h := mapM_map_eq_ok (h := id) fun c hc ↦
      InternalCall.ofJson_pair (hint c hc).1 (hint c hc).2
    rwa [List.map_id] at h
  have hexternal : (g.sortedExternal.map fun e ↦ Json.array
      [.text (toString e.1.source), e.1.target.toJson, Tally.toJson e.2]).foldlM
      addExternalEntry .empty = .ok g.canonical.external := by
    rw [foldlM_addExternalEntry_eq_ok_iff]
    refine ⟨g.canonical.external.entries, ?_, g.canonical.external.nodup_keys, rfl⟩
    rw [entries_external_canonical, List.forall₂_map_left_iff, List.forall₂_map_right_iff,
      List.forall₂_same]
    intro e he
    exact externalOfJson_triple (hext e.1 (List.mem_map_of_mem (List.mem_mergeSort.mp he)))
  rw [ofJson, bind_of_eq_ok (Json.arrayField_eq_ok_iff.mpr rfl),
    bind_of_eq_ok (Json.arrayField_eq_ok_iff.mpr rfl), bind_of_eq_ok hinternal,
    bind_of_eq_ok hexternal]
  rfl

/-! ## Revisions -/

namespace Revision

theorem isValid_canonical_iff {r : Revision} : r.canonical.IsValid ↔ r.IsValid := by
  have hids : r.canonical.hierarchy.ids.Perm r.hierarchy.ids := by
    rw [← Hierarchy.map_fst_methodEntries, ← Hierarchy.map_fst_methodEntries]
    exact r.hierarchy.methodEntries_canonical_perm.map Prod.fst
  have hends : r.canonical.calls.endpoints.Perm r.calls.endpoints :=
    (r.calls.keys_external_canonical_perm.map ExternalKey.source).append_left _
  constructor
  · exact fun h ↦ ⟨hids.nodup_iff.mp h.nodup_ids,
      fun id hid ↦ hids.mem_iff.mp (h.defined id (hends.mem_iff.mpr hid))⟩
  · exact fun h ↦ ⟨hids.nodup_iff.mpr h.nodup_ids,
      fun id hid ↦ hids.mem_iff.mpr (h.defined id (hends.mem_iff.mp hid))⟩

theorem isValid_canonical {r : Revision} (h : r.IsValid) : r.canonical.IsValid :=
  isValid_canonical_iff.mpr h

theorem headerOfJson_eq_ok_iff {data : Json} {forge product version generator : String} :
    headerOfJson data = .ok (forge, product, version, generator) ↔
      data.member? "forge" = some (.text forge) ∧ data.member? "product" = some (.text product) ∧
        data.member? "version" = some (.text version) ∧
        data.member? "generator" = some (.text generator) := by
  rw [headerOfJson, bind_eq_ok_iff]
  constructor
  · rintro ⟨_, hforge, h⟩
    rw [bind_eq_ok_iff] at h
    obtain ⟨_, hproduct, h⟩ := h
    rw [bind_eq_ok_iff] at h
    obtain ⟨_, hversion, h⟩ := h
    rw [bind_eq_ok_iff] at h
    obtain ⟨_, hgenerator, h⟩ := h
    cases h
    exact ⟨Json.textField_eq_ok_iff.mp hforge, Json.textField_eq_ok_iff.mp hproduct,
      Json.textField_eq_ok_iff.mp hversion, Json.textField_eq_ok_iff.mp hgenerator⟩
  · rintro ⟨hforge, hproduct, hversion, hgenerator⟩
    refine ⟨forge, Json.textField_eq_ok_iff.mpr hforge, ?_⟩
    rw [bind_of_eq_ok (Json.textField_eq_ok_iff.mpr hproduct),
      bind_of_eq_ok (Json.textField_eq_ok_iff.mpr hversion),
      bind_of_eq_ok (Json.textField_eq_ok_iff.mpr hgenerator)]
    rfl

/-- **The parts of a document** are what the readers of its members give. -/
theorem partsOfJson_eq_ok_iff {data : Json} {p : Parts} : partsOfJson data = .ok p ↔
    headerOfJson data = .ok (p.forge, p.product, p.version, p.generator) ∧
      timeOfJson data = .ok p.time ∧
      (∃ groups, data.member? "depset" = some (.array groups) ∧
        Dependencies.ofItems groups = .ok p.dependencies) ∧
      (∃ members, data.member? "cha" = some (.object members) ∧
        Hierarchy.ofMembers members = .ok p.hierarchy) ∧
      ∃ graph, (data.member? "graph" = some graph ∧ Json.Kind.object.admits graph = true) ∧
        CallGraph.ofJson graph = .ok p.calls := by
  rw [partsOfJson, bind_eq_ok_iff]
  constructor
  · rintro ⟨_, hheader, h⟩
    rw [bind_eq_ok_iff] at h
    obtain ⟨_, htime, h⟩ := h
    rw [bind_eq_ok_iff] at h
    obtain ⟨groups, hgroups, h⟩ := h
    rw [bind_eq_ok_iff] at h
    obtain ⟨_, hdeps, h⟩ := h
    rw [bind_eq_ok_iff] at h
    obtain ⟨members, hmembers, h⟩ := h
    rw [bind_eq_ok_iff] at h
    obtain ⟨_, hhierarchy, h⟩ := h
    rw [bind_eq_ok_iff] at h
    obtain ⟨graph, hgraph, h⟩ := h
    rw [bind_eq_ok_iff] at h
    obtain ⟨_, hcalls, h⟩ := h
    cases h
    exact ⟨hheader, htime, ⟨groups, Json.arrayField_eq_ok_iff.mp hgroups, hdeps⟩,
      ⟨members, Json.objectField_eq_ok_iff.mp hmembers, hhierarchy⟩,
      graph, Json.field_eq_ok_iff.mp hgraph, hcalls⟩
  · rintro ⟨hheader, htime, ⟨groups, hgroups, hdeps⟩, ⟨members, hmembers, hhierarchy⟩, graph,
      hgraph, hcalls⟩
    refine ⟨_, hheader, ?_⟩
    simp only
    rw [bind_of_eq_ok htime, bind_of_eq_ok (Json.arrayField_eq_ok_iff.mpr hgroups),
      bind_of_eq_ok hdeps, bind_of_eq_ok (Json.objectField_eq_ok_iff.mpr hmembers),
      bind_of_eq_ok hhierarchy, bind_of_eq_ok (Json.field_eq_ok_iff.mpr hgraph),
      bind_of_eq_ok hcalls]
    rfl

/-! ### Documents with given fields -/

end Revision

/-- The document has the fields of the parts, each as it is written, in whatever order; a time that
is not known may be left out. -/
structure Json.Carries (v : Json) (p : Revision.Parts) : Prop where
  forge : v.member? "forge" = some (.text p.forge)
  product : v.member? "product" = some (.text p.product)
  version : v.member? "version" = some (.text p.version)
  generator : v.member? "generator" = some (.text p.generator)
  time : v.member? "timestamp" = some (.int p.time) ∨ v.member? "timestamp" = none ∧ p.time < 0
  dependencies : v.member? "depset" = some (Dependencies.toJson p.dependencies)
  hierarchy : v.member? "cha" = some (Hierarchy.toJson p.hierarchy)
  calls : v.member? "graph" = some p.calls.toJson

namespace Revision

section

variable {v : Json} {p : Parts} (hv : v.Carries p)
include hv

theorem headerOfJson_of_carries :
    headerOfJson v = .ok (p.forge, p.product, p.version, p.generator) :=
  headerOfJson_eq_ok_iff.mpr ⟨hv.forge, hv.product, hv.version, hv.generator⟩

/-- A time that is left out is read as another integer than the one it was, to the same effect. -/
theorem exists_timeOfJson_of_carries :
    ∃ time, timeOfJson v = .ok time ∧ timestampOf time = timestampOf p.time := by
  rcases hv.time with htime | ⟨habsent, hneg⟩
  · refine ⟨p.time, ?_, rfl⟩
    rw [timeOfJson, htime]
    exact Json.integerField_eq_ok_iff.mpr htime
  · refine ⟨unknownTime, ?_, ?_⟩
    · rw [timeOfJson, habsent]
    · rw [timestampOf, timestampOf, if_pos hneg]
      rfl

/-- **Parts that fit together are read from any document that has them**, in canonical form. -/
theorem ofJson_of_carries (hvalid : p.unchecked.IsValid)
    (hgroups : ∀ g ∈ p.dependencies, Dependencies.IsGroup g)
    (hids : ∀ id ∈ p.hierarchy.ids, id.IsReadable) : ofJson v = .ok p.unchecked.canonical := by
  have hends : ∀ id ∈ p.calls.endpoints, MethodId.IsReadable id := fun id hid ↦
    hids id (hvalid.defined id hid)
  have hcalls : CallGraph.ofJson p.calls.toJson = .ok p.calls.canonical := by
    refine CallGraph.ofJson_toJson (fun c hc ↦ ?_) fun k hk ↦ ?_
    · have hmem : ∀ id ∈ [c.source, c.target], id ∈ p.calls.endpoints := fun id hid ↦
        List.mem_append_left _ (List.mem_flatMap.mpr ⟨c, hc, hid⟩)
      exact ⟨(hends _ (hmem _ (by simp))).1, (hends _ (hmem _ (by simp))).1⟩
    · exact hends _ (List.mem_append_right _ (List.mem_map_of_mem hk))
  obtain ⟨time, htime, hstamp⟩ := exists_timeOfJson_of_carries hv
  have hheader := headerOfJson_of_carries hv
  have hparts : partsOfJson v = .ok {
      forge := p.forge, product := p.product, version := p.version, generator := p.generator
      time := time, dependencies := p.dependencies
      hierarchy := p.hierarchy.canonical, calls := p.calls.canonical } :=
    partsOfJson_eq_ok_iff.mpr ⟨hheader, htime,
      ⟨_, hv.dependencies, Dependencies.ofItems_eq_ok_iff.mpr ⟨rfl, hgroups⟩⟩,
      ⟨_, hv.hierarchy, Hierarchy.ofMembers_sortedTypes hids⟩, _, ⟨hv.calls, rfl⟩, hcalls⟩
  rw [ofJson, bind_of_eq_ok hparts, Parts.revision_eq_ok_iff]
  refine ⟨?_, isValid_canonical hvalid⟩
  rw [canonical, Parts.unchecked, Parts.unchecked, hstamp]

end

/-! ### Documents that were encoded -/

/-- The fields of a revision. -/
def parts (r : Revision) : Parts where
  forge := r.forge
  product := r.product
  version := r.version
  generator := r.generator
  time := r.time
  dependencies := r.dependencies
  hierarchy := r.hierarchy
  calls := r.calls

theorem timestampOf_time (r : Revision) : timestampOf r.time = r.timestamp := by
  rw [time]
  cases r.timestamp with
  | none => rfl
  | some t =>
    simp only
    rw [timestampOf, if_neg (by omega), Int.toNat_natCast]

theorem unchecked_parts (r : Revision) : r.parts.unchecked = r := by
  rw [Parts.unchecked, parts, timestampOf_time]

theorem carries_toJson (r : Revision) : r.toJson.Carries r.parts := by
  have hunknown : unknownTime < 0 := by decide
  rw [toJson, parts, time]
  cases r.timestamp with
  | none => exact ⟨rfl, rfl, rfl, rfl, .inr ⟨rfl, hunknown⟩, rfl, rfl, rfl⟩
  | some t => exact ⟨rfl, rfl, rfl, rfl, .inl rfl, rfl, rfl, rfl⟩

/-- **A valid revision is read back from its document**, in canonical form. -/
theorem ofJson_toJson {r : Revision} (hvalid : r.IsValid)
    (hdeps : ∀ v ∈ r.dependencies, Dependencies.IsGroup v)
    (hids : ∀ id ∈ r.hierarchy.ids, id.IsReadable) : ofJson r.toJson = .ok r.canonical := by
  have hread := ofJson_of_carries r.carries_toJson (by rwa [unchecked_parts]) hdeps hids
  rwa [unchecked_parts] at hread

end Revision

end RevisionGraph
