import RevisionGraph.Dependencies
import RevisionGraph.Proofs.Json.Field

/-!
# The shape of dependencies

`Dependencies.ofItems` succeeds exactly on groups of objects and gives back what it was given.
-/

set_option autoImplicit false

namespace RevisionGraph.Dependencies

open Result

/-- The value is an array of objects. -/
def IsGroup (v : Json) : Prop :=
  ∃ items, v = .array items ∧ ∀ item ∈ items, ∃ members, item = .object members

theorem checkGroup_decides (index : Nat) (v : Json) : Decides (checkGroup index v) (IsGroup v) := by
  cases v with
  | array items =>
    have hitems : IsGroup (.array items) ↔ items.all (Json.Kind.object.admits ·) = true := by
      simp only [IsGroup, Json.array.injEq, List.all_eq_true,
        Json.admits_object_iff, exists_eq_left']
    rw [checkGroup, hitems]
    split
    · next h => exact .ok () h
    · next h => exact .wrongShape _ h
  | _ => exact .wrongShape _ (by rintro ⟨_, ⟨⟩, _⟩)

theorem checkGroups_decides (index : Nat) (groups : List Json) :
    Decides (checkGroups index groups) (∀ v ∈ groups, IsGroup v) := by
  induction groups generalizing index with
  | nil => exact .ok () (by simp)
  | cons v rest ih =>
    have hv := checkGroup_decides index v
    rw [List.forall_mem_cons]
    refine hv.bind And.left fun a ha ↦ (ih (index + 1)).congr ?_
    exact (and_iff_right (hv.iff_ok.mpr ⟨a, ha⟩)).symm

theorem ofItems_decides (groups : List Json) :
    Decides (ofItems groups) (∀ v ∈ groups, IsGroup v) := by
  have hgroups := checkGroups_decides 0 groups
  exact hgroups.bind id fun a ha ↦ .ok groups (hgroups.iff_ok.mpr ⟨a, ha⟩)

theorem ofItems_eq_ok_iff {groups : List Json} {d : Dependencies} :
    ofItems groups = .ok d ↔ d = groups ∧ ∀ v ∈ groups, IsGroup v := by
  rw [(checkGroups_decides 0 groups).iff_ok, ofItems, bind_eq_ok_iff]
  constructor
  · rintro ⟨a, ha, hd⟩
    cases hd
    exact ⟨rfl, a, ha⟩
  · rintro ⟨rfl, a, ha⟩
    exact ⟨a, ha, rfl⟩

end RevisionGraph.Dependencies
