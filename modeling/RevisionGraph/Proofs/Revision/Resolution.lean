import Mathlib.Data.List.Sort
import RevisionGraph.Proofs.Calls.Order
import RevisionGraph.Proofs.Revision.Methods

/-!
# Ids that lead to methods

The flat map of all methods knows nothing of types: where two of them share an id, the later one
hides the method of the earlier.  That this does not happen, and that no call uses an id that is not
in the map, is what `Revision.validate` is for.

* **The check.**  `validate_eq_dangling_iff` says when ids are reported to be undefined and which:
  all of them, in increasing order.  `validate_eq_shared` says whom a shared id is reported of.
* **The map.**  `Resolves` is what a revision that passes can rely on: nothing is lost, nothing
  depends on the order of the types, and every id in use leads to a method.  So the canonical order
  of internal calls never has to place an id without a name, `sortInternal_congr`.
* `validate_resolves` puts the two together.
-/

set_option autoImplicit false

namespace RevisionGraph

open OrderedMap

/-! ## Ids in use -/

namespace CallGraph

variable {g : CallGraph} {name name' : MethodId → Option Identifier}

/-- An internal call starts from the id or leads to it, or an external call starts from it. -/
def Uses (g : CallGraph) (id : MethodId) : Prop :=
  (∃ c ∈ g.internal, id = c.source ∨ id = c.target) ∨ ∃ k ∈ g.external.keys, id = k.source

theorem mem_endpoints_iff {id : MethodId} : id ∈ g.endpoints ↔ g.Uses id := by
  simp [endpoints, Uses, eq_comm]

theorem uses_of_mem_internalIds {id : MethodId} (h : id ∈ g.internalIds) : g.Uses id :=
  mem_endpoints_iff.mp (List.mem_append_left _ h)

/-- What is sorted increases once repeats are dropped. -/
theorem pairwise_dropRepeats {l : List MethodId} (h : l.Pairwise (· ≤ ·)) :
    (dropRepeats l).Pairwise (· < ·) := by
  induction l using dropRepeats.induct with
  | case1 b rest ih =>
    rw [dropRepeats, if_pos rfl]
    exact ih h.of_cons
  | case2 a b rest hne ih =>
    rw [dropRepeats, if_neg hne, List.pairwise_cons]
    refine ⟨fun x hx ↦ ?_, ih h.of_cons⟩
    -- the neighbour of `a` is greater, and what follows is not less than the neighbour
    have hab : a ≤ b := List.rel_of_pairwise_cons h List.mem_cons_self
    have hbx : b ≤ x := by
      rcases List.mem_cons.mp (mem_dropRepeats.mp hx) with rfl | hrest
      · exact Int.le_refl x
      · exact List.rel_of_pairwise_cons h.of_cons hrest
    exact lt_of_lt_of_le (lt_of_le_of_ne hab hne) hbx
  | case3 short hshort =>
    cases short with
    | nil => exact List.Pairwise.nil
    | cons a rest =>
      cases rest with
      | nil => exact List.pairwise_singleton _ a
      | cons b rest => exact absurd rfl (hshort a b rest)

theorem pairwise_referencedIds (g : CallGraph) : g.referencedIds.Pairwise (· < ·) := by
  refine pairwise_dropRepeats ?_
  simpa using pairwise_mergeSort_key (fun id ↦ id) linearLE_int g.endpoints

/-- Names of ids that no internal call has at an end do not matter. -/
theorem sortInternal_congr (h : ∀ id ∈ g.internalIds, name id = name' id) :
    g.sortInternal name = g.sortInternal name' := by
  have hsorted : (g.internal.mergeSort fun c d ↦ (c.compare name d).isLE) =
      g.internal.mergeSort fun c d ↦ (c.compare name' d).isLE := by
    simpa using List.map_mergeSort (f := fun c ↦ c) (l := g.internal)
      (r := fun c d ↦ (InternalCall.compare name c d).isLE)
      (s := fun c d ↦ (InternalCall.compare name' c d).isLE) fun c hc d hd ↦ by
        simp only [InternalCall.compare, h _ (source_mem_internalIds hc),
          h _ (target_mem_internalIds hc), h _ (source_mem_internalIds hd),
          h _ (target_mem_internalIds hd)]
  rw [sortInternal, sortInternal, hsorted]

end CallGraph

namespace Hierarchy

theorem mem_owners_iff {h : Hierarchy} {e : MethodId × Identifier} :
    e ∈ h.owners ↔ ∃ method, h.Defines e.2 e.1 method := by
  obtain ⟨id, type⟩ := e
  simp only [owners, List.mem_flatMap, List.mem_map, Defines, find?_eq_some_iff, mem_keys_iff]
  constructor
  · rintro ⟨⟨type, info⟩, hinfo, id, ⟨method, hmethod⟩, ⟨⟩⟩
    exact ⟨method, info, hinfo, hmethod⟩
  · rintro ⟨method, info, hinfo, hmethod⟩
    exact ⟨(type, info), hinfo, id, ⟨method, hmethod⟩, rfl⟩

/-- A type defines an id once. -/
theorem nodup_owners (h : Hierarchy) : h.owners.Nodup := by
  rw [owners, List.nodup_flatMap]
  refine ⟨fun e _ ↦ e.2.methods.nodup_keys.map fun _ _ heq ↦ (Prod.mk.inj heq).1, ?_⟩
  refine (List.pairwise_map.mp h.nodup_keys).imp fun hne o ho ho' ↦ hne ?_
  obtain ⟨_, -, rfl⟩ := List.mem_map.mp ho
  obtain ⟨_, -, heq⟩ := List.mem_map.mp ho'
  exact (Prod.mk.inj heq).2.symm

end Hierarchy

namespace Revision

variable {r : Revision}

/-! ## The check -/

/-- Two types define one id. -/
def SharesId (r : Revision) : Prop := ∃ type type' id method method', type ≠ type' ∧
  r.hierarchy.Defines type id method ∧ r.hierarchy.Defines type' id method'

/-- A call uses the id, and no type defines it. -/
def Dangles (r : Revision) (id : MethodId) : Prop :=
  r.calls.Uses id ∧ ∀ type method, ¬ r.hierarchy.Defines type id method

theorem sharesId_iff : r.SharesId ↔ ¬ r.hierarchy.ids.Nodup := by
  rw [Hierarchy.nodup_ids_iff, SharesId]
  push Not
  constructor
  · rintro ⟨type, type', id, method, method', hne, hdef, hdef'⟩
    exact ⟨type, type', id, method, method', hdef, hdef', hne⟩
  · rintro ⟨type, type', id, method, method', hdef, hdef', hne⟩
    exact ⟨type, type', id, method, method', hne, hdef, hdef'⟩

theorem mem_danglingIds_iff {id : MethodId} : id ∈ r.danglingIds ↔ r.Dangles id := by
  rw [danglingIds, List.mem_filter, CallGraph.mem_referencedIds, CallGraph.mem_endpoints_iff,
    Dangles, ← Hierarchy.ids]
  simp [Hierarchy.mem_ids_iff]

theorem pairwise_danglingIds (r : Revision) : r.danglingIds.Pairwise (· < ·) :=
  r.calls.pairwise_referencedIds.filter _

theorem isValid_iff : r.IsValid ↔ ¬ (r.SharesId ∨ ∃ id, r.Dangles id) := by
  have hdefined : (∃ id, r.Dangles id) ↔ ¬ ∀ id ∈ r.calls.endpoints, id ∈ r.hierarchy.ids := by
    rw [← danglingIds_eq_nil_iff, List.eq_nil_iff_forall_not_mem]
    push Not
    simp only [mem_danglingIds_iff]
  rw [not_or, sharesId_iff, hdefined, not_not, not_not]
  exact ⟨fun h ↦ ⟨h.nodup_ids, h.defined⟩, fun h ↦ ⟨h.1, h.2⟩⟩

/-- **Ids are reported to be undefined** when no id is shared, and then all that are, in increasing
order. -/
theorem validate_eq_dangling_iff {uri : String} {ids : List MethodId} :
    r.validate = .error (.invariant (.danglingMethodIds uri ids)) ↔
      ¬ r.SharesId ∧ uri = r.uri ∧ ids ≠ [] ∧ ids.Pairwise (· < ·) ∧
        ∀ id, id ∈ ids ↔ r.Dangles id := by
  have hreported : (ids ≠ [] ∧ ids.Pairwise (· < ·) ∧ ∀ id, id ∈ ids ↔ r.Dangles id) ↔
      r.danglingIds ≠ [] ∧ ids = r.danglingIds := by
    constructor
    · rintro ⟨hne, hincreasing, hmem⟩
      -- an increasing list is told by its members
      have heq : ids = r.danglingIds :=
        List.Pairwise.eq_of_mem_iff hincreasing r.pairwise_danglingIds fun id ↦
          (hmem id).trans mem_danglingIds_iff.symm
      exact ⟨heq ▸ hne, heq⟩
    · rintro ⟨hne, rfl⟩
      exact ⟨hne, r.pairwise_danglingIds, fun _ ↦ mem_danglingIds_iff⟩
  have hnone : ¬ r.SharesId ↔ firstShared? [] r.hierarchy.owners = none := by
    rw [sharesId_iff, not_not, firstShared?_eq_none_iff, Hierarchy.ids]
    simp
  rw [hreported, hnone, validate]
  cases firstShared? [] r.hierarchy.owners with
  | some shared => exact iff_of_false (by rintro ⟨⟩) (by rintro ⟨⟨⟩, -⟩)
  | none =>
    simp only [true_and, List.isEmpty_iff]
    split
    · next h => exact iff_of_false (by rintro ⟨⟩) fun hreport ↦ hreport.2.1 h
    · next h => simp [h, eq_comm]

/-- Of the entries seen before and those of the list, the one that is reported is the first that
has its id a second time. -/
theorem firstShared?_eq_some {seen l : List (MethodId × Identifier)} {id : MethodId}
    {first second : Identifier} (h : firstShared? seen l = some (id, first, second)) :
    ∃ before after, l = before ++ (id, second) :: after ∧ (id, first) ∈ seen ++ before := by
  induction l generalizing seen with
  | nil => cases h
  | cons e rest ih =>
    obtain ⟨id', owner⟩ := e
    rw [firstShared?] at h
    split at h
    · next e he =>
      obtain ⟨rfl, rfl, rfl⟩ : id' = id ∧ e.2 = first ∧ owner = second := by simpa using h
      have hid : e.1 = id' := by simpa using List.find?_some he
      refine ⟨[], rest, rfl, List.mem_append_left _ ?_⟩
      exact hid ▸ List.mem_of_find?_eq_some he
    · obtain ⟨before, after, rfl, hmem⟩ := ih h
      refine ⟨(id', owner) :: before, after, rfl, ?_⟩
      rwa [List.cons_append, List.mem_cons, List.mem_append, or_left_comm, ← List.mem_cons,
        ← List.mem_append] at hmem

/-- **A shared id is reported of two types that define it.** -/
theorem validate_eq_shared {id : MethodId} {first second : String}
    (h : r.validate = .error (.invariant (.sharedMethodId id first second))) :
    ∃ type type' method method', type ≠ type' ∧ type.text = first ∧ type'.text = second ∧
      r.hierarchy.Defines type id method ∧ r.hierarchy.Defines type' id method' := by
  rw [validate] at h
  split at h
  · next id' type type' hshared =>
    cases h
    obtain ⟨before, after, howners, htype⟩ := firstShared?_eq_some hshared
    rw [List.nil_append] at htype
    have hdefines : ∀ e ∈ before ++ (id, type') :: after, ∃ method,
        r.hierarchy.Defines e.2 e.1 method := fun e he ↦ Hierarchy.mem_owners_iff.mp (howners ▸ he)
    obtain ⟨method, hdef⟩ := hdefines _ (List.mem_append_left _ htype)
    obtain ⟨method', hdef'⟩ := hdefines _ (List.mem_append_right _ List.mem_cons_self)
    refine ⟨type, type', method, method', ?_, rfl, rfl, hdef, hdef'⟩
    rintro rfl
    have hnodup := r.hierarchy.nodup_owners
    rw [howners, List.nodup_append] at hnodup
    exact hnodup.2.2 _ htype _ List.mem_cons_self rfl
  · simp only at h
    split at h <;> cases h

/-! ## The map -/

/-- What a revision that passes the check can rely on. -/
structure Resolves (r : Revision) : Prop where
  /-- the map of all methods does not depend on the order of the types -/
  find?_methods_of_perm : ∀ h : Hierarchy, h.entries.Perm r.hierarchy.entries →
    ∀ id, h.methods.find? id = r.methods.find? id
  /-- no method is lost -/
  size_methods : r.methods.size = (r.hierarchy.entries.map fun e ↦ e.2.methods.size).sum
  /-- the map has the methods of the types and no others -/
  find?_methods : ∀ id method, r.methods.find? id = some method ↔
    ∃ type, r.hierarchy.Defines type id method
  /-- every id in use leads to a method -/
  exists_of_uses : ∀ id, r.calls.Uses id → ∃ method, r.methods.find? id = some method
  /-- the canonical order asks for no name of an id that has none: whatever names such ids are
  given, the order stays the same -/
  sortInternal_eq : ∀ name : MethodId → Option Identifier,
    (∀ id method, r.methods.find? id = some method → name id = some method) →
      r.calls.sortInternal name = r.sortInternal.calls

theorem IsValid.resolves (h : r.IsValid) : r.Resolves := by
  have hdefines : ∀ id method, r.methods.find? id = some method ↔
      ∃ type, r.hierarchy.Defines type id method := fun _ _ ↦ Hierarchy.find?_methods h.nodup_ids
  have huses : ∀ id, r.calls.Uses id → ∃ method, r.methods.find? id = some method := by
    intro id hid
    obtain ⟨type, method, hdef⟩ :=
      Hierarchy.mem_ids_iff.mp (h.defined id (CallGraph.mem_endpoints_iff.mpr hid))
    exact ⟨method, (hdefines id method).mpr ⟨type, hdef⟩⟩
  refine ⟨fun k hk id ↦ ?_, Hierarchy.size_methods h.nodup_ids, hdefines, huses,
    fun name hname ↦ ?_⟩
  · have hsame : ∀ type, k.find? type = r.hierarchy.find? type :=
      agree_eq_iff.mp (agree_eq_iff_perm.mpr hk)
    have hnodup : k.ids.Nodup := by
      have hids : k.ids.Perm r.hierarchy.ids := by
        rw [Hierarchy.ids_eq, Hierarchy.ids_eq]
        exact hk.flatMap_right _
      exact hids.nodup_iff.mpr h.nodup_ids
    refine Option.ext fun method ↦ ?_
    rw [Hierarchy.find?_methods hnodup, methods, Hierarchy.find?_methods h.nodup_ids]
    simp only [Hierarchy.Defines, hsame]
  · refine CallGraph.sortInternal_congr fun id hid ↦ ?_
    obtain ⟨method, hmethod⟩ := huses id (CallGraph.uses_of_mem_internalIds hid)
    rw [hname id method hmethod, hmethod]

/-- **What the check is for.**  A revision is refused exactly when two types share an id or a call
uses an id that is not defined; and then the report says which, for ids that are not defined all of
them in increasing order.  In a revision that passes, every id in use leads to a method. -/
theorem validate_resolves (r : Revision) :
    ((∃ cause, r.validate = .error (.invariant cause)) ↔ r.SharesId ∨ ∃ id, r.Dangles id) ∧
    (r.validate = .ok () ↔ ¬ (r.SharesId ∨ ∃ id, r.Dangles id)) ∧
    (r.validate = .ok () → r.Resolves) ∧
    (∀ uri ids, r.validate = .error (.invariant (.danglingMethodIds uri ids)) ↔
      ¬ r.SharesId ∧ uri = r.uri ∧ ids ≠ [] ∧ ids.Pairwise (· < ·) ∧
        ∀ id, id ∈ ids ↔ r.Dangles id) ∧
    ∀ id first second, r.validate = .error (.invariant (.sharedMethodId id first second)) →
      ∃ type type' method method', type ≠ type' ∧ type.text = first ∧ type'.text = second ∧
        r.hierarchy.Defines type id method ∧ r.hierarchy.Defines type' id method' := by
  refine ⟨?_, ?_, fun hok ↦ (validate_eq_ok_iff.mp hok).resolves,
    fun _ _ ↦ validate_eq_dangling_iff, fun _ _ _ ↦ validate_eq_shared⟩
  · rw [validate_eq_error_iff, isValid_iff, not_not]
  · rw [validate_eq_ok_iff, isValid_iff]

end Revision

end RevisionGraph
