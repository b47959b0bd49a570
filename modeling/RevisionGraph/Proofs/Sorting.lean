import RevisionGraph.Calls.Order
import RevisionGraph.Calls.Wire

/-!
# Sorting by a linear order

Every canonical form of a call graph is a merge sort by some key: types by identifier, methods by
id, tags by text, external calls by source and target, internal calls by the names of their ends.
What makes each of them canonical is the same argument, which is made here once.

* `LinearLE le` says that a Boolean comparison is a linear order.
* `mergeSort_eq_of_perm`: lists with the same items in another order are sorted alike, as long as
  the key tells the items apart.
* The comparisons in use are linear orders: `Identifier.linearLE`, `ExternalKey.linearLE`,
  `InternalCall.linearLE` and, for texts and ids, `LinearLE.ofCompare` and `linearLE_int`.
-/

set_option autoImplicit false

namespace RevisionGraph

open Std

variable {α κ : Type}

/-- The comparison is a linear order. -/
structure LinearLE (le : κ → κ → Bool) : Prop where
  trans : ∀ a b c, le a b → le b c → le a c
  total : ∀ a b, le a b || le b a
  antisymm : ∀ a b, le a b → le b a → a = b

theorem LinearLE.ofCompare (cmp : κ → κ → Ordering) [TransCmp cmp] [LawfulEqCmp cmp] :
    LinearLE fun a b ↦ (cmp a b).isLE where
  trans _ _ _ hab hbc := TransCmp.isLE_trans hab hbc
  total a b := by
    have hswap : cmp b a = (cmp a b).swap := OrientedCmp.eq_swap
    rw [hswap]
    cases cmp a b <;> rfl
  antisymm _ _ hab hba := LawfulEqCmp.eq_of_compare (OrientedCmp.isLE_antisymm hab hba)

theorem linearLE_int : LinearLE fun a b : Int ↦ decide (a ≤ b) where
  trans a b c hab hbc := by simp only [decide_eq_true_eq] at *; omega
  total a b := by simp only [Bool.or_eq_true, decide_eq_true_eq]; omega
  antisymm a b hab hba := by simp only [decide_eq_true_eq] at *; omega

/-! ## Sorted lists -/

section

variable {le : κ → κ → Bool} (f : α → κ)

theorem pairwise_mergeSort_key (hle : LinearLE le) (l : List α) :
    (l.mergeSort fun a b ↦ le (f a) (f b)).Pairwise fun a b ↦ le (f a) (f b) :=
  List.pairwise_mergeSort (fun a b c ↦ hle.trans (f a) (f b) (f c))
    (fun a b ↦ hle.total (f a) (f b)) l

/-- **Sorting forgets the order of a list** whose items have keys of their own. -/
theorem mergeSort_eq_of_perm (hle : LinearLE le) {l m : List α} (h : l.Perm m)
    (inj : ∀ a ∈ l, ∀ b ∈ l, f a = f b → a = b) :
    (l.mergeSort fun a b ↦ le (f a) (f b)) = m.mergeSort fun a b ↦ le (f a) (f b) := by
  have hperm : (l.mergeSort fun a b ↦ le (f a) (f b)).Perm (m.mergeSort fun a b ↦ le (f a) (f b)) :=
    (List.mergeSort_perm l _).trans (h.trans (List.mergeSort_perm m _).symm)
  refine List.Perm.eq_of_pairwise ?_ (pairwise_mergeSort_key f hle l)
    (pairwise_mergeSort_key f hle m) hperm
  intro a b ha hb hab hba
  rw [List.mem_mergeSort] at ha hb
  exact inj a ha b (h.mem_iff.mpr hb) (hle.antisymm _ _ hab hba)

theorem mergeSort_mergeSort (hle : LinearLE le) (l : List α) :
    ((l.mergeSort fun a b ↦ le (f a) (f b)).mergeSort fun a b ↦ le (f a) (f b)) =
      l.mergeSort fun a b ↦ le (f a) (f b) :=
  List.mergeSort_of_pairwise (pairwise_mergeSort_key f hle l)

end

/-! ## The orders in use -/

namespace Identifier

theorem compare_eq (a b : Identifier) : Ord.compare a b = Ord.compare a.text b.text := rfl

instance : TransOrd Identifier where
  eq_swap := by
    intro a b
    have hswap : Ord.compare a.text b.text = (Ord.compare b.text a.text).swap :=
      OrientedCmp.eq_swap
    rw [compare_eq, compare_eq, hswap]
  isLE_trans := by
    intro a b c hab hbc
    rw [compare_eq] at *
    exact TransCmp.isLE_trans hab hbc

instance : LawfulEqOrd Identifier where
  compare_self := by intro a; rw [compare_eq, compare_self]
  eq_of_compare := by
    intro a b h
    rw [compare_eq] at h
    exact Identifier.ext (LawfulEqCmp.eq_of_compare h)

theorem linearLE : LinearLE fun a b : Identifier ↦ (Ord.compare a b).isLE :=
  LinearLE.ofCompare Ord.compare

end Identifier

/-- A comparison of keys compares the items that have them. -/
theorem transCmp_on (f : α → κ) (cmp : κ → κ → Ordering) [TransCmp cmp] :
    TransCmp fun a b ↦ cmp (f a) (f b) where
  eq_swap := OrientedCmp.eq_swap
  isLE_trans := TransCmp.isLE_trans

instance : TransCmp ExternalKey.compare :=
  inferInstanceAs (TransCmp (compareLex (compareOn ExternalKey.source)
    (compareOn ExternalKey.target)))

instance : LawfulEqCmp ExternalKey.compare where
  compare_self := by
    intro a
    rw [ExternalKey.compare, compare_self, compare_self]
    rfl
  eq_of_compare := by
    intro a b h
    rw [ExternalKey.compare, Ordering.then_eq_eq] at h
    obtain ⟨source, target⟩ := a
    obtain rfl : source = b.source := LawfulEqCmp.eq_of_compare h.1
    obtain rfl : target = b.target := LawfulEqCmp.eq_of_compare h.2
    rfl

theorem ExternalKey.linearLE : LinearLE fun a b ↦ (ExternalKey.compare a b).isLE :=
  LinearLE.ofCompare ExternalKey.compare

instance : TransCmp compareNames where
  eq_swap := by
    intro a b
    rcases a with _ | a <;> rcases b with _ | b <;> try rfl
    have hswap : Ord.compare a b = (Ord.compare b a).swap := OrientedCmp.eq_swap
    exact hswap
  isLE_trans := by
    intro a b c hab hbc
    cases a <;> cases b <;> cases c <;> simp_all [compareNames]
    exact TransCmp.isLE_trans hab hbc

namespace InternalCall

instance (name : MethodId → Option Identifier) : TransCmp (InternalCall.compare name) :=
  have := transCmp_on (fun c : InternalCall ↦ name c.source) compareNames
  have := transCmp_on (fun c : InternalCall ↦ name c.target) compareNames
  inferInstanceAs (TransCmp (compareLex (fun a b ↦ compareNames (name a.source) (name b.source))
    (compareLex (fun a b ↦ compareNames (name a.target) (name b.target))
      (compareLex (compareOn InternalCall.source) (compareOn InternalCall.target)))))

/-- The ids break every tie, so only equal calls tie. -/
instance (name : MethodId → Option Identifier) : LawfulEqCmp (InternalCall.compare name) where
  compare_self := by
    intro a
    have h : ∀ o, compareNames o o = .eq := fun o ↦ ReflCmp.compare_self
    rw [InternalCall.compare, h, h, compare_self, compare_self]
    rfl
  eq_of_compare := by
    intro a b h
    simp only [InternalCall.compare, Ordering.then_eq_eq] at h
    obtain ⟨source, target⟩ := a
    obtain rfl : source = b.source := LawfulEqCmp.eq_of_compare h.2.2.1
    obtain rfl : target = b.target := LawfulEqCmp.eq_of_compare h.2.2.2
    rfl

theorem linearLE (name : MethodId → Option Identifier) :
    LinearLE fun a b ↦ (InternalCall.compare name a b).isLE :=
  LinearLE.ofCompare (InternalCall.compare name)

end InternalCall

end RevisionGraph
