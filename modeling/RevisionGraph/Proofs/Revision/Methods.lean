import RevisionGraph.Proofs.Revision.Reading

/-!
# Methods that reading keeps

The keys of the methods of a type are texts, and what they denote are numbers.  Different keys such
as `1` and `01` may denote one number, and then the type that is read has one method for them, the
last.  Nothing refuses such a document: the check of a revision compares types that were read, and
by then there is one method only.

* `TypeInfo.find?_methods_of_ofJson`: which method a type that was read has under an id.
* `TypeInfo.holdsAll_iff_of_ofJson`: it has every method of its document exactly when no two keys
  denote one number.
* `Revision.keeps_methods_iff`: the same of all types of a revision, and of its map of all methods.
-/

set_option autoImplicit false

namespace RevisionGraph

open Result OrderedMap

/-! ## Methods in documents -/

namespace Json

/-- The members of the object under a key. -/
def membersUnder (key : String) (data : Json) : List (String × Json) :=
  match data.member? key with
  | some (.object members) => members
  | _ => []

/-- The types that a document lists. -/
def typeMembers (data : Json) : List (String × Json) := data.membersUnder "cha"

/-- The methods that the document of a type lists. -/
def methodMembers (type : Json) : List (String × Json) := type.membersUnder "methods"

theorem membersUnder_eq {data : Json} {key : String} {members : List (String × Json)}
    (h : data.member? key = some (.object members)) : data.membersUnder key = members := by
  rw [membersUnder, h]

end Json

/-- The number that a key denotes. -/
def MethodId.ofKey (key : String) : MethodId := Text.readDecimal key.toList

/-- No two keys denote one number. -/
def HasDistinctNumbers (members : List (String × Json)) : Prop :=
  (members.map fun m ↦ MethodId.ofKey m.1).Nodup

instance (members : List (String × Json)) : Decidable (HasDistinctNumbers members) :=
  inferInstanceAs (Decidable (List.Nodup _))

/-! ## Types -/

namespace TypeInfo

variable {data : Json} {t : TypeInfo} {members : List (String × Json)}
  {l : List (MethodId × Identifier)}

/-- The type has the methods that are listed, each under its number, and no others. -/
structure HoldsAll (t : TypeInfo) (members : List (String × Json)) : Prop where
  size_eq : t.methods.size = members.length
  find?_eq : ∀ m ∈ members, ∃ method : Identifier,
    m.2 = .text method.text ∧ t.methods.find? (MethodId.ofKey m.1) = some method

theorem methodOfMember_eq_ok {m : String × Json} {e : MethodId × Identifier}
    (h : methodOfMember m = .ok e) : MethodId.ofKey m.1 = e.1 ∧ m.2 = .text e.2.text := by
  obtain ⟨hid, hmethod⟩ := methodOfMember_eq_ok_iff.mp h
  exact ⟨(MethodId.ofText_eq_ok_iff.mp hid).2.2.symm, Identifier.ofJson_eq_ok_iff.mp hmethod⟩

theorem map_ofKey_eq (h : List.Forall₂ (fun m e ↦ methodOfMember m = .ok e) members l) :
    members.map (fun m ↦ MethodId.ofKey m.1) = l.map Prod.fst :=
  map_eq_of_forall₂ h fun _ _ hm ↦ (methodOfMember_eq_ok hm).1

/-- **Of the keys that denote an id the last says which method it is.** -/
theorem find?_methods_of_ofJson (h : ofJson data = .ok t) {id : MethodId} {method : Identifier} :
    t.methods.find? id = some method ↔ ∃ before key after,
      data.methodMembers = before ++ (key, .text method.text) :: after ∧
        MethodId.ofKey key = id ∧ ∀ m ∈ after, MethodId.ofKey m.1 ≠ id := by
  obtain ⟨members, l, hmembers, hl, hmethods⟩ := methods_of_ofJson h
  rw [hmethods, find?_ofList_eq_some_iff, Json.methodMembers, Json.membersUnder_eq hmembers]
  constructor
  · rintro ⟨before, after, rfl, hlast⟩
    obtain ⟨before', ⟨key, value⟩, after', rfl, hm, hafter⟩ := exists_split_left_of_forall₂ hl
    obtain ⟨hid, hmethod⟩ := methodOfMember_eq_ok hm
    refine ⟨before', key, after', by rw [← hmethod], hid, fun m hm heq ↦ hlast ?_⟩
    rw [← map_ofKey_eq hafter, ← heq]
    exact List.mem_map_of_mem hm
  · rintro ⟨before, key, after, rfl, rfl, hlast⟩
    obtain ⟨before', ⟨id, name⟩, after', rfl, hm, hafter⟩ := exists_split_right_of_forall₂ hl
    obtain ⟨hid, hmethod⟩ := methodOfMember_eq_ok hm
    obtain rfl : method = name := Identifier.ext (Json.text.inj hmethod)
    refine ⟨before', after', by rw [hid], fun hmem ↦ ?_⟩
    rw [← map_ofKey_eq hafter] at hmem
    obtain ⟨m, hm, heq⟩ := List.mem_map.mp hmem
    exact hlast m hm heq

/-- A type that is read has no more methods than its document. -/
theorem size_methods_le_of_ofJson (h : ofJson data = .ok t) :
    t.methods.size ≤ data.methodMembers.length := by
  obtain ⟨members, l, hmembers, hl, hmethods⟩ := methods_of_ofJson h
  rw [hmethods, Json.methodMembers, Json.membersUnder_eq hmembers, hl.length_eq]
  exact size_ofList_le l

theorem size_methods_eq_iff_of_ofJson (h : ofJson data = .ok t) :
    t.methods.size = data.methodMembers.length ↔ HasDistinctNumbers data.methodMembers := by
  obtain ⟨members, l, hmembers, hl, hmethods⟩ := methods_of_ofJson h
  rw [hmethods, Json.methodMembers, Json.membersUnder_eq hmembers, hl.length_eq,
    size_ofList_eq_length_iff, HasDistinctNumbers, map_ofKey_eq hl]

/-- **A type keeps its methods exactly when no two keys denote one number.** -/
theorem holdsAll_iff_of_ofJson (h : ofJson data = .ok t) :
    t.HoldsAll data.methodMembers ↔ HasDistinctNumbers data.methodMembers := by
  constructor
  · intro hall
    exact (size_methods_eq_iff_of_ofJson h).mp hall.size_eq
  · intro hdistinct
    refine ⟨(size_methods_eq_iff_of_ofJson h).mpr hdistinct, fun m hm ↦ ?_⟩
    obtain ⟨members, l, hmembers, hl, hmethods⟩ := methods_of_ofJson h
    rw [Json.methodMembers, Json.membersUnder_eq hmembers] at hdistinct hm
    obtain ⟨e, he, hme⟩ := exists_right_of_forall₂ hl hm
    obtain ⟨hid, hmethod⟩ := methodOfMember_eq_ok hme
    rw [HasDistinctNumbers, map_ofKey_eq hl] at hdistinct
    refine ⟨e.2, hmethod, ?_⟩
    rwa [hid, hmethods, find?_eq_some_iff, entries_ofList hdistinct]

end TypeInfo

/-! ## Revisions -/

namespace Hierarchy

/-- The map of all methods of a valid hierarchy is as large as the maps of its types together. -/
theorem size_methods {h : Hierarchy} (hids : h.ids.Nodup) :
    h.methods.size = (h.entries.map fun e ↦ e.2.methods.size).sum := by
  rw [methods, OrderedMap.size, entries_ofList (by rwa [map_fst_methodEntries]), methodEntries,
    values, List.length_flatMap, List.map_map]
  rfl

end Hierarchy

namespace Revision

variable {data : Json} {r : Revision}

/-- The types of a revision that was read are those of the document, one by one. -/
theorem forall₂_types_of_ofJson (hkeys : data.HasDistinctKeys) (hr : ofJson data = .ok r) :
    List.Forall₂ (fun m e ↦ Hierarchy.typeOfMember m = .ok e) data.typeMembers
      r.hierarchy.entries := by
  obtain ⟨p, hp, rfl, -⟩ := ofJson_eq_ok_iff.mp hr
  obtain ⟨members, -, -, hcha, hhierarchy, -⟩ := partsOfJson_eq_ok hp
  have hmembers := (Json.hasDistinctKeys_object_iff.mp (hkeys.of_member? hcha)).1
  rw [Json.typeMembers, Json.membersUnder_eq hcha]
  exact (Hierarchy.ofMembers_eq_ok_iff hmembers).mp hhierarchy

/-- **Which documents are read without loss.**  Every type of the document is there, with the last
of the methods whose keys denote an id; it has all of them exactly when its keys denote different
numbers, and the map of all methods has all of them exactly when every type has. -/
theorem keeps_methods_iff (hkeys : data.HasDistinctKeys) (hr : ofJson data = .ok r) :
    (∀ m ∈ data.typeMembers, ∃ name info, name.text = m.1 ∧
      r.hierarchy.find? name = some info ∧
      (∀ id method, info.methods.find? id = some method ↔ ∃ before key after,
        m.2.methodMembers = before ++ (key, .text method.text) :: after ∧
          MethodId.ofKey key = id ∧ ∀ m' ∈ after, MethodId.ofKey m'.1 ≠ id) ∧
      (info.HoldsAll m.2.methodMembers ↔ HasDistinctNumbers m.2.methodMembers)) ∧
    (r.methods.size = (data.typeMembers.flatMap fun m ↦ m.2.methodMembers).length ↔
      ∀ m ∈ data.typeMembers, HasDistinctNumbers m.2.methodMembers) := by
  have htypes := forall₂_types_of_ofJson hkeys hr
  obtain ⟨-, -, -, hvalid⟩ := ofJson_eq_ok_iff.mp hr
  constructor
  · intro m hm
    obtain ⟨⟨name, info⟩, he, hread⟩ := exists_right_of_forall₂ htypes hm
    obtain ⟨hname, hinfo⟩ := Hierarchy.typeOfMember_eq_ok_iff.mp hread
    exact ⟨name, info, hname, find?_eq_some_iff.mpr he,
      fun _ _ ↦ TypeInfo.find?_methods_of_ofJson hinfo, TypeInfo.holdsAll_iff_of_ofJson hinfo⟩
  · rw [methods, Hierarchy.size_methods hvalid.nodup_ids, List.length_flatMap]
    refine sum_map_eq_iff_of_forall₂ htypes (fun m e hread ↦ ?_) fun m e hread ↦ ?_
    · exact TypeInfo.size_methods_le_of_ofJson (Hierarchy.typeOfMember_eq_ok_iff.mp hread).2
    · exact TypeInfo.size_methods_eq_iff_of_ofJson (Hierarchy.typeOfMember_eq_ok_iff.mp hread).2

/-- A document of one type with these methods and no calls. -/
def sampleWithMethods (methods : List (String × Json)) : Json := .object [
  ("forge", .text "mvn"), ("product", .text "g:a"), ("version", .text "1.0"),
  ("generator", .text "OPAL"), ("depset", .array []),
  ("cha", .object [("/p/A", .object [("sourceFile", .text "A.java"), ("methods", .object methods),
    ("superClasses", .array []), ("superInterfaces", .array [])])]),
  ("graph", .object [("internalCalls", .array []), ("externalCalls", .array [])])]

/-- A document whose keys denote different ids. -/
def distinctSample : Json := sampleWithMethods [("1", .text "/p/A.m()"), ("02", .text "/p/A.n()")]

/-- Two keys that denote one number. -/
def collidingSample : Json := sampleWithMethods [("1", .text "/p/A.m()"), ("01", .text "/p/A.n()")]

theorem keeps_methods_iff_sample : ∃ r, ofJson distinctSample = .ok r ∧ r.methods.size = 2 := by
  obtain ⟨r, hr⟩ : ∃ r, ofJson distinctSample = .ok r :=
    ⟨_, ofJson_eq_ok_iff.mpr ⟨_, rfl, rfl, ⟨by decide, by decide⟩⟩⟩
  exact ⟨r, hr, (keeps_methods_iff (by decide) hr).2.mpr (by decide)⟩

/-- **A method can be lost**: the document is read, and the first of its methods is nowhere. -/
theorem exists_lost_method : collidingSample.HasDistinctKeys ∧
    (collidingSample.typeMembers.flatMap fun m ↦ m.2.methodMembers) =
      [("1", .text "/p/A.m()"), ("01", .text "/p/A.n()")] ∧
    ∃ r name info, ofJson collidingSample = .ok r ∧ name.text = "/p/A" ∧
      r.hierarchy.find? name = some info ∧
        info.methods.values.map Identifier.text = ["/p/A.n()"] ∧
        r.methods.values.map Identifier.text = ["/p/A.n()"] :=
  ⟨by decide, by decide, _, ⟨"/p/A", by decide, by decide⟩, _,
    ofJson_eq_ok_iff.mpr ⟨_, rfl, rfl, ⟨by decide, by decide⟩⟩, rfl, rfl, rfl, rfl⟩

end Revision

end RevisionGraph
