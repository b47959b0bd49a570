import RevisionGraph.Maven.Record
import RevisionGraph.Proofs.Result

/-!
# What a record announces

The text of a record announces a release when it is the text of an object with the three parts of a
coordinate, and with a date that can be read or none.

* `HasTime`, `Announces`: what is in the object, in terms of its members.
* `announced_eq_ok_iff`: what is read from the text is what it announces.
-/

set_option autoImplicit false

namespace RevisionGraph

open Result

namespace Coordinate

variable {record : Json}

theorem memberText_eq_ok_iff {key s : String} :
    memberText record key = .ok s ↔ ∃ v, record.member? key = some v ∧ v.plain = s := by
  rw [memberText]
  cases record.member? key with
  | none => exact iff_of_false (by rintro ⟨⟩) (by simp)
  | some v => simp

/-- A coordinate is read off the three members that make it. -/
theorem ofRecord_eq_ok_iff {c : Coordinate} : ofRecord record = .ok c ↔
    (∃ v, record.member? "groupId" = some v ∧ v.plain = c.groupId) ∧
    (∃ v, record.member? "artifactId" = some v ∧ v.plain = c.artifactId) ∧
    ∃ v, record.member? "version" = some v ∧ v.plain = c.version := by
  rw [ofRecord, bind_eq_ok_iff]
  constructor
  · rintro ⟨groupId, hgroup, h⟩
    rw [bind_eq_ok_iff] at h
    obtain ⟨artifactId, hartifact, h⟩ := h
    rw [bind_eq_ok_iff] at h
    obtain ⟨version, hversion, h⟩ := h
    cases h
    exact ⟨memberText_eq_ok_iff.mp hgroup, memberText_eq_ok_iff.mp hartifact,
      memberText_eq_ok_iff.mp hversion⟩
  · rintro ⟨hgroup, hartifact, hversion⟩
    refine ⟨c.groupId, memberText_eq_ok_iff.mpr hgroup, ?_⟩
    rw [bind_of_eq_ok (memberText_eq_ok_iff.mpr hartifact),
      bind_of_eq_ok (memberText_eq_ok_iff.mpr hversion)]
    rfl

end Coordinate

namespace ReleaseRecord

variable {record : Json} {text : String} {c : Coordinate} {time : Int}

/-- The time of a record: unknown without a date, and otherwise what the date says. -/
inductive HasTime (record : Json) : Int → Prop
  | unknown (hdate : record.member? "date" = none ∨ record.member? "date" = some .null) :
      HasTime record Revision.unknownTime
  | known {date : Json} {time : Int} (hdate : record.member? "date" = some date)
      (hknown : date ≠ .null) (htime : Text.readInteger? date.plain = some time) :
      HasTime record time

/-- The text is that of an object that names a release, and its time. -/
def Announces (text : String) (c : Coordinate) (time : Int) : Prop :=
  ∃ members, Json.read text = .ok (.object members) ∧
    (∃ v, (Json.object members).member? "groupId" = some v ∧ v.plain = c.groupId) ∧
    (∃ v, (Json.object members).member? "artifactId" = some v ∧ v.plain = c.artifactId) ∧
    (∃ v, (Json.object members).member? "version" = some v ∧ v.plain = c.version) ∧
    HasTime (.object members) time

/-- The release that the text of a record names, and its time. -/
def announced (text : String) : Result (Coordinate × Int) := do
  let record ← parse text
  let c ← Coordinate.ofRecord record
  let time ← releaseTime record
  return (c, time)

theorem parse_eq_ok_iff : parse text = .ok record ↔
    Json.read text = .ok record ∧ ∃ members, record = .object members := by
  rw [parse]
  cases Json.read text with
  | error e => exact iff_of_false (by rintro ⟨⟩) (by rintro ⟨⟨⟩, -⟩)
  | ok v =>
    cases v with
    | object members =>
      constructor
      · rintro ⟨⟩
        exact ⟨rfl, members, rfl⟩
      · rintro ⟨⟨⟩, -⟩
        rfl
    | _ => exact iff_of_false (by rintro ⟨⟩) (by rintro ⟨⟨⟩, -, ⟨⟩⟩)

theorem releaseTime_of_unknown
    (hdate : record.member? "date" = none ∨ record.member? "date" = some .null) :
    releaseTime record = .ok Revision.unknownTime := by
  rw [releaseTime]
  rcases hdate with hdate | hdate <;> rw [hdate] <;> rfl

theorem releaseTime_of_known {date : Json} (hdate : record.member? "date" = some date)
    (hknown : date ≠ .null) : releaseTime record = .ok time ↔
      Text.readInteger? date.plain = some time := by
  rw [releaseTime, hdate, Option.getD_some]
  cases date with
  | null => exact absurd rfl hknown
  | _ => cases htime : Text.readInteger? _ <;> simp [htime, Json.wrongShape]

theorem releaseTime_eq_ok_iff : releaseTime record = .ok time ↔ HasTime record time := by
  constructor
  · intro h
    by_cases hdate : record.member? "date" = none ∨ record.member? "date" = some .null
    · rw [releaseTime_of_unknown hdate] at h
      cases h
      exact .unknown hdate
    · rw [not_or] at hdate
      obtain ⟨date, hsome⟩ := Option.ne_none_iff_exists'.mp hdate.1
      have hknown : date ≠ .null := fun hnull ↦ hdate.2 (hnull ▸ hsome)
      exact .known hsome hknown ((releaseTime_of_known hsome hknown).mp h)
  · rintro (hdate | ⟨hdate, hknown, htime⟩)
    · exact releaseTime_of_unknown hdate
    · exact (releaseTime_of_known hdate hknown).mpr htime

/-- **What is read from the text of a record is what it announces.** -/
theorem announced_eq_ok_iff : announced text = .ok (c, time) ↔ Announces text c time := by
  rw [announced, bind_eq_ok_iff]
  constructor
  · rintro ⟨record, hrecord, h⟩
    rw [bind_eq_ok_iff] at h
    obtain ⟨c', hc, h⟩ := h
    rw [bind_eq_ok_iff] at h
    obtain ⟨time', htime, h⟩ := h
    cases h
    obtain ⟨hread, members, rfl⟩ := parse_eq_ok_iff.mp hrecord
    obtain ⟨hgroup, hartifact, hversion⟩ := Coordinate.ofRecord_eq_ok_iff.mp hc
    exact ⟨members, hread, hgroup, hartifact, hversion, releaseTime_eq_ok_iff.mp htime⟩
  · rintro ⟨members, hread, hgroup, hartifact, hversion, htime⟩
    refine ⟨_, parse_eq_ok_iff.mpr ⟨hread, members, rfl⟩, ?_⟩
    rw [bind_of_eq_ok (Coordinate.ofRecord_eq_ok_iff.mpr ⟨hgroup, hartifact, hversion⟩),
      bind_of_eq_ok (releaseTime_eq_ok_iff.mpr htime)]
    rfl

end ReleaseRecord

end RevisionGraph
