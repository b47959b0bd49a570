import RevisionGraph.Proofs.Identifier
import RevisionGraph.Proofs.OrderedMap

/-!
# What the canonical order of internal calls is

`CallGraph.sortInternal` sorts by a comparison that runs through four keys.
`InternalCall.Precedes` says which call it puts first, and `sortInternal_canonical` what comes out:
the same calls in that order, and one list for every order in which they were before.

Ids only break ties between calls whose ends have the same names.  So where every end has a name of
its own the order does not depend on the numbers and follows every renumbering of them,
`internal_sortInternal_rename`.
-/

set_option autoImplicit false

namespace RevisionGraph

open Std OrderedMap

/-! ## The order in words -/

/-- The first name comes before the second by code point; no name comes after every name. -/
def NameBefore : Option Identifier → Option Identifier → Prop
  | some a, some b => a.text < b.text
  | some _, none => True
  | none, _ => False

/-- The first call is the second or comes before it: by the name of its source, then by the name of
its target, and where the names are the same by the ids. -/
def InternalCall.Precedes (name : MethodId → Option Identifier) (c d : InternalCall) : Prop :=
  NameBefore (name c.source) (name d.source) ∨ name c.source = name d.source ∧
    (NameBefore (name c.target) (name d.target) ∨ name c.target = name d.target ∧
      (c.source < d.source ∨ c.source = d.source ∧ c.target ≤ d.target))

theorem compareNames_eq_lt_iff {a b : Option Identifier} :
    compareNames a b = .lt ↔ NameBefore a b := by
  cases a with
  | none => cases b <;> simp [compareNames, NameBefore]
  | some a =>
    cases b with
    | none => simp [compareNames, NameBefore]
    | some b => exact compareOfLessAndEq_eq_lt

theorem compareNames_eq_eq_iff {a b : Option Identifier} : compareNames a b = .eq ↔ a = b := by
  cases a with
  | none => cases b <;> simp [compareNames]
  | some a =>
    cases b with
    | none => simp [compareNames]
    | some b =>
      rw [compareNames, Option.some.injEq]
      exact LawfulEqCmp.compare_eq_iff_eq

namespace InternalCall

variable {name : MethodId → Option Identifier} {c d : InternalCall}

/-- The comparison puts first what precedes. -/
theorem isLE_compare_iff : (InternalCall.compare name c d).isLE = true ↔ c.Precedes name d := by
  rw [InternalCall.compare, Ordering.isLE_then_iff_or, Ordering.isLE_then_iff_or,
    Ordering.isLE_then_iff_or, compareNames_eq_lt_iff, compareNames_eq_eq_iff,
    compareNames_eq_lt_iff, compareNames_eq_eq_iff, compare_eq_lt, LawfulEqCmp.compare_eq_iff_eq,
    isLE_compare, Precedes]

/-- The call with other ids. -/
def rename (r : MethodId → MethodId) (c : InternalCall) : InternalCall :=
  ⟨r c.source, r c.target⟩

end InternalCall

/-! ## Sorting -/

namespace CallGraph

/-- The ids that internal calls start from or lead to. -/
def internalIds (g : CallGraph) : List MethodId :=
  g.internal.flatMap fun c ↦ [c.source, c.target]

variable {g g' : CallGraph} {name name' : MethodId → Option Identifier}

theorem source_mem_internalIds {c : InternalCall} (hc : c ∈ g.internal) :
    c.source ∈ g.internalIds :=
  List.mem_flatMap.mpr ⟨c, hc, by simp⟩

theorem target_mem_internalIds {c : InternalCall} (hc : c ∈ g.internal) :
    c.target ∈ g.internalIds :=
  List.mem_flatMap.mpr ⟨c, hc, by simp⟩

theorem pairwise_precedes_sortInternal (g : CallGraph) (name : MethodId → Option Identifier) :
    (g.sortInternal name).internal.Pairwise (InternalCall.Precedes name) :=
  (pairwise_mergeSort_key (fun c ↦ c) (InternalCall.linearLE name) g.internal).imp
    InternalCall.isLE_compare_iff.mp

/-- Graphs with the same internal calls in some order are sorted alike. -/
theorem internal_sortInternal_of_perm (name : MethodId → Option Identifier)
    (h : g'.internal.Perm g.internal) :
    (g'.sortInternal name).internal = (g.sortInternal name).internal :=
  mergeSort_eq_of_perm (fun c ↦ c) (InternalCall.linearLE name) h fun _ _ _ _ heq ↦ heq

theorem sortInternal_sortInternal (g : CallGraph) (name : MethodId → Option Identifier) :
    (g.sortInternal name).sortInternal name = g.sortInternal name := by
  have hsorted := mergeSort_mergeSort (fun c ↦ c) (InternalCall.linearLE name) g.internal
  simp only [sortInternal, hsorted]

/-- Calls whose ends have names of their own compare alike under other ids with the same names. -/
theorem compare_rename {ids : List MethodId} {r : MethodId → MethodId}
    (hname : ∀ id ∈ ids, name' (r id) = name id)
    (hdistinct : ∀ id ∈ ids, ∀ id' ∈ ids, name id = name id' → id = id') {c d : InternalCall}
    (hc : c.source ∈ ids ∧ c.target ∈ ids) (hd : d.source ∈ ids ∧ d.target ∈ ids) :
    (c.rename r).compare name' (d.rename r) = c.compare name d := by
  simp only [InternalCall.compare, InternalCall.rename, hname _ hc.1, hname _ hc.2, hname _ hd.1,
    hname _ hd.2]
  -- ids are looked at only if both names tie, and then they are the same ids
  cases hsource : compareNames (name c.source) (name d.source) with
  | lt => rfl
  | gt => rfl
  | eq =>
    cases htarget : compareNames (name c.target) (name d.target) with
    | lt => rfl
    | gt => rfl
    | eq =>
      rw [compareNames_eq_eq_iff] at hsource htarget
      rw [hdistinct _ hc.1 _ hd.1 hsource, hdistinct _ hc.2 _ hd.2 htarget]
      simp only [compare_self, Ordering.then_eq]

/-- **The order does not depend on the numbers** where every end has a name of its own. -/
theorem internal_sortInternal_rename {r : MethodId → MethodId}
    (hname : ∀ id ∈ g.internalIds, name' (r id) = name id)
    (hdistinct : ∀ id ∈ g.internalIds, ∀ id' ∈ g.internalIds, name id = name id' → id = id')
    (hg' : g'.internal = g.internal.map (InternalCall.rename r)) :
    (g'.sortInternal name').internal =
      (g.sortInternal name).internal.map (InternalCall.rename r) := by
  rw [sortInternal, hg']
  refine (List.map_mergeSort fun c hc d hd ↦ ?_).symm
  rw [compare_rename hname hdistinct ⟨source_mem_internalIds hc, target_mem_internalIds hc⟩
    ⟨source_mem_internalIds hd, target_mem_internalIds hd⟩]

/-- **What sorting makes of internal calls.**  They are the same calls, in the order of the names of
their ends with the ids to break ties, whatever order they were in; external calls stay as they are.
Where the map gives every end a name of its own, the result follows every renumbering of the ids. -/
theorem sortInternal_canonical (g : CallGraph) (m : OrderedMap MethodId Identifier) :
    (g.sortInternal m.find?).external = g.external ∧
    (g.sortInternal m.find?).internal.Perm g.internal ∧
    (g.sortInternal m.find?).internal.Pairwise (InternalCall.Precedes m.find?) ∧
    (∀ g' : CallGraph, g'.internal.Perm g.internal →
      (g'.sortInternal m.find?).internal = (g.sortInternal m.find?).internal) ∧
    (g.sortInternal m.find?).sortInternal m.find? = g.sortInternal m.find? ∧
    ∀ (r : MethodId → MethodId) (hr : Set.InjOn r {id | id ∈ m.keys}),
      (∀ id ∈ g.internalIds, id ∈ m.keys) →
      (∀ id ∈ g.internalIds, ∀ id' ∈ g.internalIds, m.find? id = m.find? id' → id = id') →
      ∀ g' : CallGraph, g'.internal = g.internal.map (InternalCall.rename r) →
        (g'.sortInternal (m.mapKeys r hr).find?).internal =
          (g.sortInternal m.find?).internal.map (InternalCall.rename r) := by
  refine ⟨rfl, List.mergeSort_perm _ _, pairwise_precedes_sortInternal g m.find?,
    fun g' h ↦ internal_sortInternal_of_perm m.find? h, sortInternal_sortInternal g m.find?, ?_⟩
  intro r hr hnamed hdistinct g' hg'
  exact internal_sortInternal_rename (fun id hid ↦ m.find?_mapKeys r hr (hnamed id hid))
    hdistinct hg'

/-- The method with the greater id has the lesser name. -/
def sampleNames : OrderedMap MethodId Identifier :=
  .ofList [(9, ⟨"/p/B.m()", by decide, by decide⟩), (10, .sampleCaller)]

/-- Calls in no order, one of them twice. -/
def sampleCalls : CallGraph := ⟨[⟨9, 10⟩, ⟨10, 9⟩, ⟨9, 9⟩, ⟨10, 9⟩], .empty⟩

/-- The calls under two orders and two numberings, in which the greater id has the lesser name or
the other way round. -/
theorem sortInternal_canonical_sample :
    (sampleCalls.sortInternal sampleNames.find?).internal.Pairwise
      (InternalCall.Precedes sampleNames.find?) ∧
    (sortInternal ⟨[⟨10, 9⟩, ⟨10, 9⟩, ⟨9, 10⟩, ⟨9, 9⟩], .empty⟩ sampleNames.find?).internal =
      (sampleCalls.sortInternal sampleNames.find?).internal ∧
    ∃ hr : Set.InjOn (fun id : MethodId ↦ 100 - id) {id | id ∈ sampleNames.keys},
      (sortInternal ⟨[⟨91, 90⟩, ⟨90, 91⟩, ⟨91, 91⟩, ⟨90, 91⟩], .empty⟩
          (sampleNames.mapKeys _ hr).find?).internal =
        (sampleCalls.sortInternal sampleNames.find?).internal.map
          (InternalCall.rename fun id ↦ 100 - id) := by
  obtain ⟨-, -, hordered, hperm, -, hrename⟩ := sortInternal_canonical sampleCalls sampleNames
  have hr : Set.InjOn (fun id : MethodId ↦ 100 - id) {id | id ∈ sampleNames.keys} := by
    intro id _ id' _ h
    simpa using h
  exact ⟨hordered, hperm _ (by decide), hr, hrename _ hr (by decide) (by decide) _ rfl⟩

end CallGraph

end RevisionGraph
