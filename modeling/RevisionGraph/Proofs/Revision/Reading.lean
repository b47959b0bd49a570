import RevisionGraph.Proofs.Revision.Encoding

/-!
# What the readers read

Each reader of a layer, taken apart: a value that it accepts is made of values that the readers of
the parts accept, and what it gives is made of what they give.

* `MethodId.ofText_eq_ok_iff`, `TypeInfo.methodOfMember_eq_ok_iff`: the leaves.
* `Hierarchy.ofMembers_eq_ok_iff`, `CallGraph.ofJson_eq_ok_iff`, `Revision.partsOfJson_eq_ok`: the
  layers.
* `Revision.isSound_of_ofJson`: a revision that was read is sound.
-/

set_option autoImplicit false

namespace RevisionGraph

open Result OrderedMap

/-! ## Ids -/

theorem MethodId.ofText_eq_ok_iff {s : String} {id : MethodId} : MethodId.ofText s = .ok id ↔
    Text.isDecimal s.toList = true ∧ s.length ≤ Text.digitLimit ∧
      id = Text.readDecimal s.toList := by
  rw [ofText]
  split
  · next hdecimal =>
    split
    · next hlong => exact ⟨by rintro ⟨⟩, fun h ↦ absurd h.2.1 (Nat.not_le.mpr hlong)⟩
    · next hlong =>
      refine ⟨fun h ↦ ?_, fun h ↦ by rw [h.2.2]⟩
      cases h
      exact ⟨hdecimal, Nat.not_lt.mp hlong, rfl⟩
  · next hdecimal => exact ⟨by rintro ⟨⟩, fun h ↦ absurd h.1 hdecimal⟩

theorem MethodId.nonneg_of_ofJson {v : Json} {id : MethodId} (h : MethodId.ofJson v = .ok id) :
    0 ≤ id := by
  cases v with
  | int i =>
    rw [ofJson] at h
    split at h
    · cases h
    next hi =>
    cases h
    exact Int.not_lt.mp hi
  | text s =>
    rw [(MethodId.ofText_eq_ok_iff.mp h).2.2]
    exact Int.natCast_nonneg _
  | _ => cases h

/-! ## Types -/

theorem TypeInfo.methodOfMember_eq_ok_iff {m : String × Json} {e : MethodId × Identifier} :
    methodOfMember m = .ok e ↔
      MethodId.ofText m.1 = .ok e.1 ∧ Identifier.ofJson m.2 = .ok e.2 := by
  rw [methodOfMember, bind_eq_ok_iff]
  constructor
  · rintro ⟨name, hname, h⟩
    rw [bind_eq_ok_iff] at h
    obtain ⟨id, hid, h⟩ := h
    cases h
    exact ⟨hid, hname⟩
  · rintro ⟨hid, hname⟩
    refine ⟨_, hname, ?_⟩
    rw [bind_eq_ok_iff]
    exact ⟨_, hid, rfl⟩

/-- The methods of a type are the ones its document lists. -/
theorem TypeInfo.methods_of_ofJson {data : Json} {t : TypeInfo} (h : ofJson data = .ok t) :
    ∃ members l, data.member? "methods" = some (.object members) ∧
      List.Forall₂ (fun m e ↦ methodOfMember m = .ok e) members l ∧ t.methods = .ofList l := by
  rw [ofJson, bind_eq_ok_iff] at h
  obtain ⟨_, -, h⟩ := h
  rw [bind_eq_ok_iff] at h
  obtain ⟨members, hmembers, h⟩ := h
  rw [bind_eq_ok_iff] at h
  obtain ⟨l, hl, h⟩ := h
  rw [bind_eq_ok_iff] at h
  obtain ⟨_, -, h⟩ := h
  rw [bind_eq_ok_iff] at h
  obtain ⟨_, -, h⟩ := h
  rw [bind_eq_ok_iff] at h
  obtain ⟨_, -, h⟩ := h
  rw [bind_eq_ok_iff] at h
  obtain ⟨_, -, h⟩ := h
  cases h
  exact ⟨members, l, Json.objectField_eq_ok_iff.mp hmembers, mapM_eq_ok_iff.mp hl, rfl⟩

/-- **The ids of a type are the numbers that the keys of its methods denote.** -/
theorem TypeInfo.mem_keys_of_ofJson {data : Json} {t : TypeInfo} (h : ofJson data = .ok t)
    {id : MethodId} : id ∈ t.methods.keys ↔
      ∃ members, data.member? "methods" = some (.object members) ∧
        ∃ m ∈ members, id = Text.readDecimal m.1.toList := by
  obtain ⟨members, l, hmembers, hl, hmethods⟩ := methods_of_ofJson h
  have hids : (members.map fun m ↦ (Text.readDecimal m.1.toList : Int)) = l.map Prod.fst :=
    map_eq_of_forall₂ hl fun m e hm ↦
      (MethodId.ofText_eq_ok_iff.mp (methodOfMember_eq_ok_iff.mp hm).1).2.2.symm
  rw [hmethods, mem_keys_ofList, ← hids, List.mem_map]
  simp only [hmembers, Option.some.injEq, Json.object.injEq, exists_eq_left', eq_comm]

/-! ## Hierarchies -/

theorem Hierarchy.typeOfMember_eq_ok_iff {m : String × Json} {e : Identifier × TypeInfo} :
    typeOfMember m = .ok e ↔ e.1.text = m.1 ∧ TypeInfo.ofJson m.2 = .ok e.2 := by
  rw [typeOfMember, bind_eq_ok_iff]
  constructor
  · rintro ⟨info, hinfo, h⟩
    rw [bind_eq_ok_iff] at h
    obtain ⟨name, hname, h⟩ := h
    cases h
    exact ⟨Identifier.ofText_eq_ok_iff.mp hname, hinfo⟩
  · rintro ⟨hname, hinfo⟩
    refine ⟨_, hinfo, ?_⟩
    rw [bind_eq_ok_iff]
    exact ⟨_, Identifier.ofText_eq_ok_iff.mpr hname, rfl⟩

/-- A hierarchy with distinct keys is read type by type. -/
theorem Hierarchy.ofMembers_eq_ok_iff {members : List (String × Json)}
    (hkeys : (members.map Prod.fst).Nodup) {h : Hierarchy} : ofMembers members = .ok h ↔
      List.Forall₂ (fun m e ↦ typeOfMember m = .ok e) members h.entries := by
  have hentries : ∀ l, List.Forall₂ (fun m e ↦ typeOfMember m = .ok e) members l →
      (OrderedMap.ofList l).entries = l := by
    intro l hl
    refine entries_ofList ?_
    have htexts : members.map Prod.fst = l.map (Identifier.text ∘ Prod.fst) :=
      map_eq_of_forall₂ hl fun m e hm ↦ (typeOfMember_eq_ok_iff.mp hm).1.symm
    rw [htexts, ← List.map_map] at hkeys
    exact hkeys.of_map _
  rw [ofMembers, bind_eq_ok_iff]
  constructor
  · rintro ⟨l, hl, h⟩
    cases h
    rw [mapM_eq_ok_iff] at hl
    rwa [hentries l hl]
  · intro hl
    exact ⟨_, mapM_eq_ok_iff.mpr hl, congrArg Except.ok (ofList_entries h)⟩

theorem Hierarchy.nonneg_of_ofMembers {members : List (String × Json)}
    (hkeys : (members.map Prod.fst).Nodup) {h : Hierarchy} (hread : ofMembers members = .ok h) :
    ∀ id ∈ h.ids, 0 ≤ id := by
  intro id hid
  rw [ids_eq, List.mem_flatMap] at hid
  obtain ⟨e, he, hid⟩ := hid
  obtain ⟨m, -, hm⟩ := exists_left_of_forall₂ ((ofMembers_eq_ok_iff hkeys).mp hread) he
  obtain ⟨_, -, m', -, rfl⟩ :=
    (TypeInfo.mem_keys_of_ofJson (typeOfMember_eq_ok_iff.mp hm).2).mp hid
  exact Int.natCast_nonneg _

/-! ## Calls -/

theorem CallGraph.ofJson_eq_ok_iff {data : Json} {g : CallGraph} : ofJson data = .ok g ↔
    ∃ internal external, data.member? "internalCalls" = some (.array internal) ∧
      data.member? "externalCalls" = some (.array external) ∧
      List.Forall₂ (fun v c ↦ InternalCall.ofJson v = .ok c) internal g.internal ∧
      List.Forall₂ (fun v e ↦ externalOfJson v = .ok e) external g.external.entries := by
  rw [ofJson, bind_eq_ok_iff]
  constructor
  · rintro ⟨internal, hinternal, h⟩
    rw [bind_eq_ok_iff] at h
    obtain ⟨external, hexternal, h⟩ := h
    rw [bind_eq_ok_iff] at h
    obtain ⟨calls, hcalls, h⟩ := h
    rw [bind_eq_ok_iff] at h
    obtain ⟨m, hm, h⟩ := h
    cases h
    obtain ⟨l, hl, -, hentries⟩ := foldlM_addExternalEntry_eq_ok_iff.mp hm
    refine ⟨internal, external, Json.arrayField_eq_ok_iff.mp hinternal,
      Json.arrayField_eq_ok_iff.mp hexternal, mapM_eq_ok_iff.mp hcalls, ?_⟩
    rw [hentries]
    exact hl
  · rintro ⟨internal, external, hinternal, hexternal, hcalls, hl⟩
    refine ⟨internal, Json.arrayField_eq_ok_iff.mpr hinternal, ?_⟩
    rw [bind_eq_ok_iff]
    refine ⟨external, Json.arrayField_eq_ok_iff.mpr hexternal, ?_⟩
    rw [bind_eq_ok_iff]
    refine ⟨g.internal, mapM_eq_ok_iff.mpr hcalls, ?_⟩
    rw [bind_eq_ok_iff]
    exact ⟨g.external, foldlM_addExternalEntry_eq_ok_iff.mpr
      ⟨_, hl, g.external.nodup_keys, rfl⟩, rfl⟩

/-! ## Revisions -/

namespace Revision

/-- The parts of a document that a reader of revisions takes apart. -/
theorem partsOfJson_eq_ok {data : Json} {p : Parts} (h : partsOfJson data = .ok p) :
    ∃ members groups graph, data.member? "cha" = some (.object members) ∧
      Hierarchy.ofMembers members = .ok p.hierarchy ∧
      data.member? "depset" = some (.array groups) ∧
      Dependencies.ofItems groups = .ok p.dependencies ∧
      data.member? "graph" = some graph ∧ CallGraph.ofJson graph = .ok p.calls := by
  obtain ⟨-, -, ⟨groups, hgroups, hdeps⟩, ⟨members, hmembers, hhierarchy⟩, graph, hgraph, hcalls⟩ :=
    partsOfJson_eq_ok_iff.mp h
  exact ⟨members, groups, graph, hmembers, hhierarchy, hgroups, hdeps, hgraph.1, hcalls⟩

theorem ofJson_eq_ok_iff {data : Json} {r : Revision} : ofJson data = .ok r ↔
    ∃ p, partsOfJson data = .ok p ∧ r = p.unchecked ∧ r.IsValid := by
  rw [ofJson, bind_eq_ok_iff]
  exact exists_congr fun p ↦ and_congr_right fun _ ↦ Parts.revision_eq_ok_iff

/-- The check is the last thing that can go wrong. -/
theorem Parts.revision_cases (p : Parts) :
    (p.unchecked.IsValid ∧ p.revision = .ok p.unchecked) ∨
      (¬ p.unchecked.IsValid ∧ ∃ cause, p.revision = .error (.invariant cause)) := by
  by_cases hvalid : p.unchecked.IsValid
  · rw [revision, validate_eq_ok_iff.mpr hvalid]
    exact .inl ⟨hvalid, rfl⟩
  · obtain ⟨cause, hcause⟩ := validate_eq_error_iff.mpr hvalid
    rw [revision, hcause]
    exact .inr ⟨hvalid, cause, rfl⟩

/-- **A revision that was read is sound.** -/
theorem isSound_of_ofJson {data : Json} (hkeys : data.HasDistinctKeys) {r : Revision}
    (h : ofJson data = .ok r) : r.IsSound := by
  obtain ⟨p, hp, rfl, hvalid⟩ := ofJson_eq_ok_iff.mp h
  obtain ⟨members, groups, -, hcha, hhierarchy, hdepset, hdeps, -⟩ := partsOfJson_eq_ok hp
  have hmembers := (Json.hasDistinctKeys_object_iff.mp (hkeys.of_member? hcha)).1
  obtain ⟨hgroups, hshape⟩ := Dependencies.ofItems_eq_ok_iff.mp hdeps
  have hdistinct := Json.hasDistinctKeys_array_iff.mp (hkeys.of_member? hdepset)
  rw [← hgroups] at hshape hdistinct
  exact ⟨hvalid, Hierarchy.nonneg_of_ofMembers hmembers hhierarchy, hshape, hdistinct⟩

theorem isSound_of_decode {text : String} {r : Revision} (h : decode text = .ok r) :
    r.IsSound := by
  rw [decode, bind_eq_ok_iff] at h
  obtain ⟨data, hdata, h⟩ := h
  refine isSound_of_ofJson ?_ h
  rw [readJson] at hdata
  split at hdata <;> cases hdata
  next hread => exact Json.hasDistinctKeys_of_read hread

theorem isSound_of_decodeBytes {bytes : Text.Bytes} {r : Revision}
    (h : decodeBytes bytes = .ok r) : r.IsSound := by
  rw [decodeBytes, bind_eq_ok_iff] at h
  obtain ⟨data, hdata, h⟩ := h
  refine isSound_of_ofJson ?_ h
  rw [readBytes] at hdata
  split at hdata
  · cases hdata
  · split at hdata <;> cases hdata
    next hread => exact Json.hasDistinctKeys_of_readUnmarked hread

end Revision

end RevisionGraph
