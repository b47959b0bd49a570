import RevisionGraph.Proofs.Revision.Shape

/-!
# Which documents are read

A document falls into one of three classes: it does not have the shape of a revision, or it has the
shape and its parts do not fit together, or it is read.  `Revision.ofJson_classification` says that
the reader tells the three apart.

That parts fit together is said of the document itself: `Json.DefinesId` and `Json.UsesId` take the
numbers that its texts denote, and `Json.SharesId` and `Json.HasDanglingId` are the two ways in
which they can be at odds.
-/

set_option autoImplicit false

namespace RevisionGraph

open Result OrderedMap

/-! ## Ids of a document -/

namespace Json

/-- The type `name` of the document has a method under a text that denotes `id`. -/
def DefinesId (v : Json) (name : String) (id : Int) : Prop :=
  ∃ types, v.member? "cha" = some (.object types) ∧ ∃ type, (name, type) ∈ types ∧
    ∃ methods, type.member? "methods" = some (.object methods) ∧
      ∃ m ∈ methods, id = Text.readDecimal m.1.toList

/-- An internal call of the document starts from `id` or leads to it, or an external call starts
from it. -/
def UsesId (v : Json) (id : Int) : Prop :=
  ∃ graph, v.member? "graph" = some graph ∧
    ((∃ items, graph.member? "internalCalls" = some (.array items) ∧
        ∃ item ∈ items, ∃ source target, item.IsInternalCall source target ∧
          (id = source ∨ id = target)) ∨
      ∃ items, graph.member? "externalCalls" = some (.array items) ∧
        ∃ item ∈ items, ∃ target, item.IsExternalCall id target)

/-- Two types define one id. -/
def SharesId (v : Json) : Prop :=
  ∃ name name' id, name ≠ name' ∧ v.DefinesId name id ∧ v.DefinesId name' id

/-- A call uses an id that no type defines. -/
def HasDanglingId (v : Json) : Prop := ∃ id, v.UsesId id ∧ ∀ name, ¬ v.DefinesId name id

end Json

namespace Revision

section

variable {v : Json} {p : Parts} (hkeys : v.HasDistinctKeys) (hp : partsOfJson v = .ok p)
include hp

include hkeys in
/-- The ids that a document defines are those that its hierarchy defines. -/
theorem definesId_iff {name : String} {id : MethodId} : v.DefinesId name id ↔
    ∃ type method, type.text = name ∧ p.hierarchy.Defines type id method := by
  obtain ⟨members, -, -, hcha, hread, -⟩ := partsOfJson_eq_ok hp
  rw [Hierarchy.ofMembers_eq_ok_iff
    (Json.hasDistinctKeys_object_iff.mp (hkeys.of_member? hcha)).1] at hread
  constructor
  · rintro ⟨types, htypes, type, htype, hid⟩
    rw [hcha] at htypes
    cases htypes
    obtain ⟨e, he, hm⟩ := exists_right_of_forall₂ hread htype
    obtain ⟨hname, hinfo⟩ := Hierarchy.typeOfMember_eq_ok_iff.mp hm
    obtain ⟨method, hmethod⟩ := mem_keys_iff.mp ((TypeInfo.mem_keys_of_ofJson hinfo).mpr hid)
    exact ⟨e.1, method, hname, e.2, find?_eq_some_iff.mpr he, find?_eq_some_iff.mpr hmethod⟩
  · rintro ⟨type, method, rfl, info, hinfo, hmethod⟩
    obtain ⟨m, hm, hme⟩ := exists_left_of_forall₂ hread (find?_eq_some_iff.mp hinfo)
    obtain ⟨hname, hinfo⟩ := Hierarchy.typeOfMember_eq_ok_iff.mp hme
    have hid : id ∈ info.methods.keys := mem_keys_iff.mpr ⟨method, find?_eq_some_iff.mp hmethod⟩
    exact ⟨members, hcha, m.2, hname ▸ hm, (TypeInfo.mem_keys_of_ofJson hinfo).mp hid⟩

/-- The ids that a document uses are those that its calls use. -/
theorem usesId_iff {id : MethodId} : v.UsesId id ↔ id ∈ p.calls.endpoints := by
  obtain ⟨-, -, graph, -, -, -, -, hgraph, hread⟩ := partsOfJson_eq_ok hp
  obtain ⟨internal, external, hinternal, hexternal, hpairs, htriples⟩ :=
    CallGraph.ofJson_eq_ok_iff.mp hread
  rw [CallGraph.endpoints, List.mem_append, List.mem_flatMap, List.mem_map]
  constructor
  · -- an id is used at an end of an internal call, or as the source of an external one
    rintro ⟨_, hgraph', ⟨_, hitems, item, hitem, source, target, hcall, hid⟩ |
      ⟨_, hitems, item, hitem, target, hcall⟩⟩
    · rw [hgraph] at hgraph'
      cases hgraph'
      rw [hinternal] at hitems
      cases hitems
      obtain ⟨c, hc, hitemc⟩ := exists_right_of_forall₂ hpairs hitem
      have heq := hcall.1.symm.trans (InternalCall.isInternalCall_of_ofJson hitemc).1
      cases heq
      exact .inl ⟨c, hc, by simpa using hid⟩
    · rw [hgraph] at hgraph'
      cases hgraph'
      rw [hexternal] at hitems
      cases hitems
      obtain ⟨e, he, hiteme⟩ := exists_right_of_forall₂ htriples hitem
      obtain ⟨hsource, -⟩ := (isExternalCall_of_externalOfJson hiteme).unique hcall
      exact .inr ⟨e.1, List.mem_map_of_mem he, hsource⟩
  · rintro (⟨c, hc, hid⟩ | ⟨k, hk, rfl⟩)
    · obtain ⟨item, hitem, hitemc⟩ := exists_left_of_forall₂ hpairs hc
      refine ⟨graph, hgraph, .inl ⟨internal, hinternal, item, hitem, c.source, c.target,
        InternalCall.isInternalCall_of_ofJson hitemc, by simpa using hid⟩⟩
    · obtain ⟨t, he⟩ := mem_keys_iff.mp hk
      obtain ⟨item, hitem, hiteme⟩ := exists_left_of_forall₂ htriples he
      exact ⟨graph, hgraph, .inr ⟨external, hexternal, item, hitem, k.target.text,
        isExternalCall_of_externalOfJson hiteme⟩⟩

include hkeys in
/-- The parts of a document fit together when no id is shared and none dangles. -/
theorem isValid_unchecked_iff : p.unchecked.IsValid ↔ ¬ (v.SharesId ∨ v.HasDanglingId) := by
  have hdefines : ∀ name id, v.DefinesId name id ↔
      ∃ type method, type.text = name ∧ p.hierarchy.Defines type id method :=
    fun _ _ ↦ definesId_iff hkeys hp
  rw [not_or]
  constructor
  · rintro ⟨hnodup, hdefined⟩
    constructor
    · rintro ⟨name, name', id, hne, hname, hname'⟩
      obtain ⟨type, method, rfl, hdef⟩ := (hdefines _ _).mp hname
      obtain ⟨type', method', rfl, hdef'⟩ := (hdefines _ _).mp hname'
      exact hne (congrArg _ (Hierarchy.nodup_ids_iff.mp hnodup _ _ _ _ _ hdef hdef'))
    · rintro ⟨id, huses, hno⟩
      have hid : id ∈ p.hierarchy.ids := hdefined id ((usesId_iff hp).mp huses)
      obtain ⟨type, method, hdef⟩ := Hierarchy.mem_ids_iff.mp hid
      exact hno type.text ((hdefines _ _).mpr ⟨type, method, rfl, hdef⟩)
  · rintro ⟨hshares, hdangling⟩
    constructor
    · rw [Hierarchy.nodup_ids_iff]
      intro type type' id method method' hdef hdef'
      by_contra hne
      exact hshares ⟨type.text, type'.text, id, fun h ↦ hne (Identifier.ext h),
        (hdefines _ _).mpr ⟨type, method, rfl, hdef⟩,
        (hdefines _ _).mpr ⟨type', method', rfl, hdef'⟩⟩
    · intro id hid
      by_contra hno
      refine hdangling ⟨id, (usesId_iff hp).mpr hid, fun name hname ↦ hno ?_⟩
      obtain ⟨type, method, -, hdef⟩ := (hdefines _ _).mp hname
      exact Hierarchy.mem_ids_iff.mpr ⟨type, method, hdef⟩

end

/-- **A document is refused for its shape, or because its parts do not fit together, or read**, and
each of the three happens exactly when it should. -/
theorem ofJson_classification {v : Json} (hkeys : v.HasDistinctKeys) (hshort : v.HasShortNumbers) :
    ((∃ cause, ofJson v = .error (.format cause)) ↔ ¬ v.IsRevision) ∧
    ((∃ cause, ofJson v = .error (.invariant cause)) ↔
      v.IsRevision ∧ (v.SharesId ∨ v.HasDanglingId)) ∧
    ((∃ r, ofJson v = .ok r) ↔ v.IsRevision ∧ ¬ (v.SharesId ∨ v.HasDanglingId)) := by
  rcases partsOfJson_decides hshort with ⟨hshape, p, hp⟩ | ⟨hshape, cause, hp⟩
  · have hread : ofJson v = p.revision := by
      rw [ofJson, hp]
      rfl
    have hfits := isValid_unchecked_iff hkeys hp
    rw [hread]
    rcases p.revision_cases with ⟨hvalid, hok⟩ | ⟨hvalid, cause, herror⟩
    · have hfit : ¬ (v.SharesId ∨ v.HasDanglingId) := hfits.mp hvalid
      simp [hok, hfit, hshape]
    · have hclash : v.SharesId ∨ v.HasDanglingId := not_not.mp (hfits.not.mp hvalid)
      simp [herror, hclash, hshape]
  · have hread : ofJson v = .error (.format cause) := by
      rw [ofJson, hp]
      rfl
    simp [hread, hshape]

/-- A document whose one type defines the id 1, and whose one call leads from 1 to 2. -/
def sampleDangling : Json := .object [
  ("forge", .text "mvn"), ("product", .text "g:a"), ("version", .text "1.0"),
  ("generator", .text ""), ("depset", .array []),
  ("cha", .object [("/p/A", .object [("sourceFile", .text ""),
    ("methods", .object [("01", .text "/p/A.m()")]), ("superClasses", .array []),
    ("superInterfaces", .array [])])]),
  ("graph", .object [("internalCalls", .array [.array [.int 1, .int 2]]),
    ("externalCalls", .array [])])]

theorem ofJson_classification_sample :
    ∃ cause, ofJson sampleDangling = .error (.invariant cause) := by
  have hshort : sampleDangling.HasShortNumbers := by decide +kernel
  have hshape : sampleDangling.IsRevision := (partsOfJson_decides hshort).iff_ok.mpr ⟨_, rfl⟩
  refine (ofJson_classification (by decide) hshort).2.1.mpr ⟨hshape, .inr ⟨2, ?_, ?_⟩⟩
  · exact ⟨_, rfl, .inl ⟨_, rfl, _, List.mem_singleton.mpr rfl, 1, 2, ⟨rfl, by decide, by decide⟩,
      .inr rfl⟩⟩
  · rintro name ⟨types, htypes, type, htype, methods, hmethods, m, hm, hid⟩
    cases htypes
    obtain ⟨-, rfl⟩ := Prod.mk.inj (List.mem_singleton.mp htype)
    cases hmethods
    rw [List.mem_singleton.mp hm] at hid
    exact absurd hid (by decide)

end Revision

end RevisionGraph
