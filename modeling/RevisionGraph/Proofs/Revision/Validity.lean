import Mathlib.Data.List.Pairwise
import RevisionGraph.Proofs.OrderedMap
import RevisionGraph.Proofs.Result
import RevisionGraph.Revision.Draft

/-!
# Valid revisions

`Revision.validate` searches for an id that is defined twice and then for ids that are used and not
defined.  `Revision.IsValid` says what it is after: no id is defined by two types, and every id in
use is defined.

* `validate_eq_ok_iff`: the check passes exactly the valid revisions.
* `Hierarchy.find?_methods`: in a valid hierarchy the flat map of all methods is the union of the
  maps of the types, whatever their order.
* `Hierarchy.nodup_ids_iff`: no id occurs twice exactly when two different types share none.
* `Parts.build_draft_eq_ok_iff`: a draft is built when its names are filled in and what it makes is
  valid.
-/

set_option autoImplicit false

namespace RevisionGraph

/-! ## Ids that types define -/

namespace Hierarchy

/-- The ids that types define, type by type. -/
def ids (h : Hierarchy) : List MethodId := h.owners.map Prod.fst

/-- The type under `name` has the method `method` under `id`. -/
def Defines (h : Hierarchy) (name : Identifier) (id : MethodId) (method : Identifier) : Prop :=
  ∃ info, h.find? name = some info ∧ info.methods.find? id = some method

theorem ids_eq (h : Hierarchy) : h.ids = h.entries.flatMap fun e ↦ e.2.methods.keys := by
  simp [ids, owners, List.map_flatMap, Function.comp_def]

theorem map_fst_methodEntries (h : Hierarchy) : h.methodEntries.map Prod.fst = h.ids := by
  simp [ids_eq, methodEntries, OrderedMap.values, List.map_flatMap, List.flatMap_map,
    OrderedMap.keys]

theorem mem_ids_iff {h : Hierarchy} {id : MethodId} :
    id ∈ h.ids ↔ ∃ name method, h.Defines name id method := by
  rw [ids_eq, List.mem_flatMap]
  constructor
  · rintro ⟨⟨name, info⟩, he, hid⟩
    obtain ⟨method, hm⟩ := OrderedMap.mem_keys_iff.mp hid
    exact ⟨name, method, info, OrderedMap.find?_eq_some_iff.mpr he,
      OrderedMap.find?_eq_some_iff.mpr hm⟩
  · rintro ⟨name, method, info, hinfo, hm⟩
    exact ⟨(name, info), OrderedMap.find?_eq_some_iff.mp hinfo,
      OrderedMap.mem_keys_iff.mpr ⟨method, OrderedMap.find?_eq_some_iff.mp hm⟩⟩

/-- **No id occurs twice exactly when types share none.** -/
theorem nodup_ids_iff {h : Hierarchy} : h.ids.Nodup ↔
    ∀ name name' id method method', h.Defines name id method → h.Defines name' id method' →
      name = name' := by
  rw [ids_eq, List.nodup_flatMap]
  constructor
  · rintro ⟨-, hdisjoint⟩ name name' id method method' ⟨info, hinfo, hm⟩ ⟨info', hinfo', hm'⟩
    by_contra hne
    have he := OrderedMap.find?_eq_some_iff.mp hinfo
    have he' := OrderedMap.find?_eq_some_iff.mp hinfo'
    have : Std.Symm (Function.onFun List.Disjoint fun e : Identifier × TypeInfo ↦
        e.2.methods.keys) := ⟨fun _ _ hd _ h h' ↦ hd h' h⟩
    have hids := hdisjoint.forall he he' fun c ↦ hne (congrArg Prod.fst c)
    exact hids (OrderedMap.mem_keys_iff.mpr ⟨method, OrderedMap.find?_eq_some_iff.mp hm⟩)
      (OrderedMap.mem_keys_iff.mpr ⟨method', OrderedMap.find?_eq_some_iff.mp hm'⟩)
  · intro hown
    refine ⟨fun e _ ↦ e.2.methods.nodup_keys, ?_⟩
    refine List.Pairwise.imp_of_mem ?_ h.nodup_entries
    rintro ⟨name, info⟩ ⟨name', info'⟩ he he' hne id hid hid'
    obtain ⟨method, hm⟩ := OrderedMap.mem_keys_iff.mp hid
    obtain ⟨method', hm'⟩ := OrderedMap.mem_keys_iff.mp hid'
    obtain rfl := hown name name' id method method'
      ⟨info, OrderedMap.find?_eq_some_iff.mpr he, OrderedMap.find?_eq_some_iff.mpr hm⟩
      ⟨info', OrderedMap.find?_eq_some_iff.mpr he', OrderedMap.find?_eq_some_iff.mpr hm'⟩
    exact hne (OrderedMap.eq_of_mem_entries he he' rfl)

/-- **The flat map is the union of the maps of the types**, in whatever order the types are. -/
theorem find?_methods {h : Hierarchy} (hids : h.ids.Nodup) {id : MethodId} {method : Identifier} :
    h.methods.find? id = some method ↔ ∃ name, h.Defines name id method := by
  rw [OrderedMap.find?_eq_some_iff, methods,
    OrderedMap.entries_ofList (by rwa [map_fst_methodEntries])]
  simp only [methodEntries, OrderedMap.values, List.mem_flatMap, List.mem_map]
  constructor
  · rintro ⟨info, ⟨⟨name, info⟩, he, rfl⟩, hm⟩
    exact ⟨name, info, OrderedMap.find?_eq_some_iff.mpr he, OrderedMap.find?_eq_some_iff.mpr hm⟩
  · rintro ⟨name, info, hinfo, hm⟩
    exact ⟨info, ⟨(name, info), OrderedMap.find?_eq_some_iff.mp hinfo, rfl⟩,
      OrderedMap.find?_eq_some_iff.mp hm⟩

end Hierarchy

/-! ## Ids that calls use -/

namespace CallGraph

theorem mem_dropRepeats {l : List MethodId} {id : MethodId} : id ∈ dropRepeats l ↔ id ∈ l := by
  induction l using dropRepeats.induct with
  | case1 b rest ih =>
    rw [dropRepeats, if_pos rfl, ih]
    simp
  | case2 a b rest h ih => rw [dropRepeats, if_neg h, List.mem_cons, ih, ← List.mem_cons]
  | case3 short h => rw [dropRepeats.eq_2 _ h]

theorem mem_referencedIds {g : CallGraph} {id : MethodId} :
    id ∈ g.referencedIds ↔ id ∈ g.endpoints := by
  rw [referencedIds, mem_dropRepeats, List.mem_mergeSort]

end CallGraph

/-! ## Validity -/

namespace Revision

/-- No two types share an id, and calls use defined ids only. -/
structure IsValid (r : Revision) : Prop where
  nodup_ids : r.hierarchy.ids.Nodup
  defined : ∀ id ∈ r.calls.endpoints, id ∈ r.hierarchy.ids

theorem firstShared?_eq_none_iff {seen l : List (MethodId × Identifier)} :
    firstShared? seen l = none ↔
      (l.map Prod.fst).Nodup ∧ ∀ id ∈ l.map Prod.fst, id ∉ seen.map Prod.fst := by
  induction l generalizing seen with
  | nil => simp [firstShared?]
  | cons e rest ih =>
    obtain ⟨id, owner⟩ := e
    rw [firstShared?]
    cases hf : seen.find? fun e ↦ e.1 == id with
    | some e =>
      have hseen : id ∈ seen.map Prod.fst := by
        have hid : e.1 = id := by simpa using List.find?_some hf
        exact hid ▸ List.mem_map_of_mem (List.mem_of_find?_eq_some hf)
      exact iff_of_false (by rintro ⟨⟩) fun h ↦ h.2 id (by simp) hseen
    | none =>
      -- the id joins those seen, so the rest has to avoid it too
      have hnew : id ∉ seen.map Prod.fst := by
        rw [List.mem_map]
        rintro ⟨e, he, rfl⟩
        exact absurd (List.find?_eq_none.mp hf e he) (by simp)
      simp only [ih, List.map_cons, List.nodup_cons, List.mem_cons, not_or]
      constructor
      · rintro ⟨hnodup, hrest⟩
        refine ⟨⟨fun hid ↦ (hrest id hid).1 rfl, hnodup⟩, ?_⟩
        rintro other (rfl | hother)
        · exact hnew
        · exact (hrest other hother).2
      · rintro ⟨⟨hid, hnodup⟩, hall⟩
        refine ⟨hnodup, fun other hother ↦ ⟨?_, hall other (.inr hother)⟩⟩
        rintro rfl
        exact hid hother

theorem danglingIds_eq_nil_iff {r : Revision} :
    r.danglingIds = [] ↔ ∀ id ∈ r.calls.endpoints, id ∈ r.hierarchy.ids := by
  simp only [danglingIds, List.filter_eq_nil_iff, CallGraph.mem_referencedIds, Hierarchy.ids]
  refine forall_congr' fun id ↦ imp_congr_right fun _ ↦ ?_
  simp

/-- **The check passes exactly the valid revisions.** -/
theorem validate_eq_ok_iff {r : Revision} : r.validate = .ok () ↔ r.IsValid := by
  have hvalid : r.IsValid ↔ firstShared? [] r.hierarchy.owners = none ∧ r.danglingIds = [] := by
    rw [firstShared?_eq_none_iff, danglingIds_eq_nil_iff]
    exact ⟨fun h ↦ ⟨⟨h.1, by simp⟩, h.2⟩, fun h ↦ ⟨h.1.1, h.2⟩⟩
  rw [hvalid, validate]
  cases firstShared? [] r.hierarchy.owners with
  | some shared => exact iff_of_false (by rintro ⟨⟩) (by rintro ⟨⟨⟩, -⟩)
  | none =>
    simp only [true_and, List.isEmpty_iff]
    split
    · next h => exact iff_of_true rfl h
    · next h => exact iff_of_false (by rintro ⟨⟩) h

/-- What the check does not pass is refused as a call graph whose parts do not fit. -/
theorem validate_eq_error_iff {r : Revision} :
    (∃ cause, r.validate = .error (.invariant cause)) ↔ ¬ r.IsValid := by
  rw [← validate_eq_ok_iff, validate]
  cases firstShared? [] r.hierarchy.owners with
  | some shared => exact iff_of_true ⟨_, rfl⟩ (by rintro ⟨⟩)
  | none =>
    simp only
    split
    · exact iff_of_false (by rintro ⟨_, ⟨⟩⟩) (not_not.mpr rfl)
    · exact iff_of_true ⟨_, rfl⟩ (by rintro ⟨⟩)

/-- Parts make the revision that has them, if it is valid. -/
theorem Parts.revision_eq_ok_iff {p : Parts} {r : Revision} :
    p.revision = .ok r ↔ r = p.unchecked ∧ r.IsValid := by
  rw [revision, Result.bind_eq_ok_iff]
  constructor
  · rintro ⟨_, hvalid, h⟩
    cases h
    exact ⟨rfl, validate_eq_ok_iff.mp hvalid⟩
  · rintro ⟨rfl, hvalid⟩
    exact ⟨(), validate_eq_ok_iff.mpr hvalid, rfl⟩

/-! ## Drafts -/

namespace Parts

/-- What names the release and the generator, field by field. -/
def names (p : Parts) : List (String × String) := [
  ("forge", p.forge), ("product", p.product), ("version", p.version), ("generator", p.generator)]

/-- The fields among them that are empty. -/
def emptyNames (p : Parts) : List String := (p.names.filter fun f ↦ f.2 == "").map Prod.fst

/-- None of them is empty. -/
def IsNamed (p : Parts) : Prop := ∀ f ∈ p.names, f.2 ≠ ""

instance (p : Parts) : Decidable p.IsNamed := inferInstanceAs (Decidable (∀ f ∈ p.names, f.2 ≠ ""))

/-- The draft in which every field was filled in. -/
def draft (p : Parts) : Draft where
  forge := some p.forge
  product := some p.product
  version := some p.version
  generator := some p.generator
  time := p.time
  dependencies := p.dependencies
  hierarchy := p.hierarchy
  calls := p.calls

theorem missing_draft (p : Parts) : p.draft.missing = p.emptyNames := by
  simp only [Draft.missing, draft, emptyNames, names, List.filter_cons, List.filter_nil,
    Option.getD_some]
  split_ifs <;> rfl

theorem isEmpty_emptyNames_iff {p : Parts} : p.emptyNames.isEmpty = true ↔ p.IsNamed := by
  simp only [emptyNames, IsNamed, List.isEmpty_iff, List.map_eq_nil_iff, List.filter_eq_nil_iff,
    beq_iff_eq, ne_eq]

theorem build_draft_of_isNamed {p : Parts} (h : p.IsNamed) : p.draft.build = p.revision := by
  rw [Draft.build, Draft.parts, missing_draft, if_pos (isEmpty_emptyNames_iff.mpr h)]
  rfl

/-- The names that are empty are reported. -/
theorem build_draft_of_not_isNamed {p : Parts} (h : ¬ p.IsNamed) :
    p.draft.build = .error (.format (.revisionIncomplete p.emptyNames)) := by
  rw [Draft.build, Draft.parts, missing_draft, if_neg (isEmpty_emptyNames_iff.not.mpr h)]
  rfl

/-- **A draft is built when its names are filled in and its parts fit together**, and gives the
revision of its parts. -/
theorem build_draft_eq_ok_iff {p : Parts} {r : Revision} :
    p.draft.build = .ok r ↔ p.IsNamed ∧ r = p.unchecked ∧ r.IsValid := by
  by_cases hnamed : p.IsNamed
  · rw [build_draft_of_isNamed hnamed, revision_eq_ok_iff, and_iff_right hnamed]
  · rw [build_draft_of_not_isNamed hnamed]
    exact iff_of_false (by rintro ⟨⟩) fun h ↦ hnamed h.1

end Parts

end Revision

end RevisionGraph
