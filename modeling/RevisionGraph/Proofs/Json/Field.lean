import RevisionGraph.Proofs.Json.Contents
import RevisionGraph.Proofs.Result

/-!
# Members of documents

A reader of a member succeeds exactly when the member is there and of the kind, and gives it:
`field_decides` and `field_eq_ok_iff`.  The typed readers also take the member apart; `Kind.Takes`
says what they share, and each of them has the same two lemmas.  Once an array or an object is
there, `exists_array_iff` and `exists_object_iff` leave what is asked of it.
-/

set_option autoImplicit false

namespace RevisionGraph.Json

open Result

variable {key context : String} {data : Json}

theorem field_eq_ok_iff {kind : Kind} {v : Json} : data.field key kind context = .ok v ↔
    data.member? key = some v ∧ kind.admits v = true := by
  cases data with
  | object members =>
    rw [field]
    cases member? key (object members) with
    | none => exact ⟨by rintro ⟨⟩, by rintro ⟨⟨⟩, -⟩⟩
    | some w =>
      simp only
      split
      · next hw => exact ⟨fun h ↦ by cases h; exact ⟨rfl, hw⟩, fun h ↦ by cases h.1; rfl⟩
      · next hw => exact ⟨by rintro ⟨⟩, fun h ↦ by cases h.1; exact absurd h.2 hw⟩
  | _ => exact ⟨by rintro ⟨⟩, by rintro ⟨⟨⟩, -⟩⟩

theorem field_decides (kind : Kind) : Decides (data.field key kind context)
    (∃ v, data.member? key = some v ∧ kind.admits v = true) := by
  cases h : data.field key kind context with
  | ok v => exact .ok v ⟨v, field_eq_ok_iff.mp h⟩
  | error e =>
    have hno : ¬ ∃ v, data.member? key = some v ∧ kind.admits v = true := by
      rintro ⟨v, hv⟩
      rw [field_eq_ok_iff.mpr hv] at h
      cases h
    have hformat : ∃ cause, e = .format cause := by
      rw [field.eq_def] at h
      split at h
      · split at h
        · cases h
          exact ⟨_, rfl⟩
        · split at h <;> cases h
          exact ⟨_, rfl⟩
      · cases h
        exact ⟨_, rfl⟩
    obtain ⟨cause, rfl⟩ := hformat
    exact .wrongShape cause hno

theorem admits_object_iff {v : Json} :
    Kind.object.admits v = true ↔ ∃ members, v = .object members := by
  cases v <;> simp [Kind.admits]

theorem exists_array_iff {items : List Json} (h : data.member? key = some (.array items))
    {p : List Json → Prop} : (∃ l, data.member? key = some (.array l) ∧ p l) ↔ p items := by
  constructor
  · rintro ⟨l, hl, hp⟩
    cases h.symm.trans hl
    exact hp
  · exact fun hp ↦ ⟨items, h, hp⟩

theorem exists_object_iff {members : List (String × Json)}
    (h : data.member? key = some (.object members)) {p : List (String × Json) → Prop} :
    (∃ l, data.member? key = some (.object l) ∧ p l) ↔ p members := by
  constructor
  · rintro ⟨l, hl, hp⟩
    cases h.symm.trans hl
    exact hp
  · exact fun hp ↦ ⟨members, h, hp⟩

/-! ## Typed readers -/

/-- The values of the kind are the ones that `wrap` makes, and `take` undoes `wrap`. -/
structure Kind.Takes {α : Type} (kind : Kind) (wrap : α → Json) (take : Json → Result α) :
    Prop where
  admits_iff : ∀ v, kind.admits v = true ↔ ∃ a, v = wrap a
  take_wrap : ∀ a, take (wrap a) = .ok a

section

variable {α : Type} {kind : Kind} {wrap : α → Json} {take : Json → Result α}

theorem Kind.Takes.field_eq_ok_iff (h : kind.Takes wrap take) {a : α} :
    (data.field key kind context >>= take) = .ok a ↔ data.member? key = some (wrap a) := by
  rw [bind_eq_ok_iff]
  constructor
  · rintro ⟨v, hv, ha⟩
    obtain ⟨hm, hadmits⟩ := Json.field_eq_ok_iff.mp hv
    obtain ⟨b, rfl⟩ := (h.admits_iff v).mp hadmits
    rw [h.take_wrap] at ha
    cases ha
    exact hm
  · intro hm
    exact ⟨wrap a, Json.field_eq_ok_iff.mpr ⟨hm, (h.admits_iff _).mpr ⟨a, rfl⟩⟩, h.take_wrap a⟩

theorem Kind.Takes.field_decides (h : kind.Takes wrap take) :
    Decides (data.field key kind context >>= take) (∃ a, data.member? key = some (wrap a)) := by
  refine (Json.field_decides kind).bind ?_ fun v hv ↦ ?_
  · rintro ⟨a, hm⟩
    exact ⟨wrap a, hm, (h.admits_iff _).mpr ⟨a, rfl⟩⟩
  · obtain ⟨hm, hadmits⟩ := Json.field_eq_ok_iff.mp hv
    obtain ⟨a, rfl⟩ := (h.admits_iff v).mp hadmits
    rw [h.take_wrap]
    exact .ok a ⟨a, hm⟩

end

theorem takes_text {other : Json → Result String} :
    Kind.text.Takes Json.text fun | .text s => .ok s | value => other value where
  admits_iff v := by cases v <;> simp [Kind.admits]
  take_wrap _ := rfl

theorem takes_integer {other : Json → Result Int} :
    Kind.integer.Takes Json.int fun | .int i => .ok i | value => other value where
  admits_iff v := by cases v <;> simp [Kind.admits]
  take_wrap _ := rfl

theorem takes_array {other : Json → Result (List Json)} :
    Kind.array.Takes Json.array fun | .array items => .ok items | value => other value where
  admits_iff v := by cases v <;> simp [Kind.admits]
  take_wrap _ := rfl

theorem takes_object {other : Json → Result (List (String × Json))} :
    Kind.object.Takes Json.object fun | .object members => .ok members | value => other value where
  admits_iff _ := admits_object_iff
  take_wrap _ := rfl

theorem textField_eq_ok_iff {s : String} :
    data.textField key context = .ok s ↔ data.member? key = some (.text s) :=
  takes_text.field_eq_ok_iff

theorem textField_decides :
    Decides (data.textField key context) (∃ s, data.member? key = some (.text s)) :=
  takes_text.field_decides

theorem integerField_eq_ok_iff {i : Int} :
    data.integerField key context = .ok i ↔ data.member? key = some (.int i) :=
  takes_integer.field_eq_ok_iff

theorem integerField_decides :
    Decides (data.integerField key context) (∃ i, data.member? key = some (.int i)) :=
  takes_integer.field_decides

theorem arrayField_eq_ok_iff {items : List Json} :
    data.arrayField key context = .ok items ↔ data.member? key = some (.array items) :=
  takes_array.field_eq_ok_iff

theorem arrayField_decides :
    Decides (data.arrayField key context) (∃ items, data.member? key = some (.array items)) :=
  takes_array.field_decides

theorem objectField_eq_ok_iff {members : List (String × Json)} :
    data.objectField key context = .ok members ↔ data.member? key = some (.object members) :=
  takes_object.field_eq_ok_iff

theorem objectField_decides :
    Decides (data.objectField key context) (∃ members, data.member? key = some (.object members)) :=
  takes_object.field_decides

end RevisionGraph.Json
