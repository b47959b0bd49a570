import RevisionGraph.Identifier
import RevisionGraph.Proofs.Result

/-!
# Reading identifiers

The text of an identifier is the whole of it.  So a text is read as at most one identifier, which is
the one with that text, and what was written is read back.  The same holds for lists.

Some identifiers that examples are made of stand at the end.
-/

set_option autoImplicit false

namespace RevisionGraph

open Result

namespace Identifier

theorem ofText_text (i : Identifier) : ofText i.text = .ok i := by
  rw [ofText, dif_neg i.nonempty, dif_neg (by simp [i.unblank])]

theorem ofText_eq_ok_iff {s : String} {i : Identifier} : ofText s = .ok i ↔ i.text = s := by
  constructor
  · intro h
    rw [ofText] at h
    split_ifs at h <;> cases h
    rfl
  · rintro rfl
    exact i.ofText_text

theorem ofJson_eq_ok_iff {v : Json} {i : Identifier} : ofJson v = .ok i ↔ v = .text i.text := by
  constructor
  · intro h
    cases v with
    | text s => rw [ofText_eq_ok_iff.mp h]
    | _ => cases h
  · rintro rfl
    exact i.ofText_text

theorem ofJson_toJson (i : Identifier) : ofJson i.toJson = .ok i :=
  i.ofText_text

theorem mapM_ofText_eq_ok_iff {texts : List String} {ids : List Identifier} :
    texts.mapM ofText = .ok ids ↔ texts = ids.map text := by
  rw [mapM_eq_ok_iff]
  constructor
  · intro h
    have heq : texts.map id = ids.map text :=
      map_eq_of_forall₂ h fun _ _ hid ↦ (ofText_eq_ok_iff.mp hid).symm
    rwa [List.map_id] at heq
  · rintro rfl
    rw [List.forall₂_map_left_iff, List.forall₂_same]
    exact fun i _ ↦ i.ofText_text

theorem mapM_ofJson_toJson (l : List Identifier) : (l.map toJson).mapM ofJson = .ok l := by
  rw [mapM_map_eq_ok (h := id) fun i _ ↦ i.ofJson_toJson, List.map_id]

/-! ## A type, two methods of it and one of another -/

/-- A type. -/
def sampleOwner : Identifier := ⟨"/p/A", by decide, by decide⟩

/-- A method that calls others. -/
def sampleCaller : Identifier := ⟨"/p/A.m()", by decide, by decide⟩

/-- A method that is called. -/
def sampleCallee : Identifier := ⟨"/p/A.n()", by decide, by decide⟩

/-- A method of another release. -/
def sampleElsewhere : Identifier := ⟨"/q/C.k()", by decide, by decide⟩

end Identifier

end RevisionGraph
