import RevisionGraph.Proofs.Engine.Contract
import RevisionGraph.Proofs.Maven.Record

/-!
# What a uri tells of its revision

A revision is published under its uri: forge, product and version with separators between them.
The product has a separator of its own, between group and artifact.  No part is kept from holding a
separator, so the uri can be read in more than one way.

* `Text.Displaced` says of two pairs of texts that their separator stands at different places of one
  text, and `Text.push_append_eq_iff` that this is the only way for two pairs to be joined alike.
* `Revision.uri_eq_uri_iff` and `Coordinate.product_eq_product_iff` apply it to the two kinds of
  names.
* `EngineProducer.uri_eq_iff` says when two revisions that are produced under one forge are
  published under one uri, in terms of the records they were asked for with.
-/

set_option autoImplicit false

namespace RevisionGraph

open Result

/-! ## Joining two texts -/

namespace Text

/-- What stands between the two places of the separator belongs to the first text of one pair, and
to the second of the other. -/
def Displaced (x : Char) (a b a' b' : String) : Prop :=
  ∃ m : String, (a' = a.push x ++ m ∧ b = m.push x ++ b') ∨
    (a = a'.push x ++ m ∧ b' = m.push x ++ b)

section

variable {x : Char} {a b a' b' : String}

theorem Displaced.symm (h : Displaced x a b a' b') : Displaced x a' b' a b :=
  h.imp fun _ ↦ Or.symm

/-- A displaced separator stands in a first text. -/
theorem Displaced.mem (h : Displaced x a b a' b') : x ∈ a.toList ∨ x ∈ a'.toList := by
  obtain ⟨m, ⟨rfl, -⟩ | ⟨rfl, -⟩⟩ := h
  · exact .inr (by simp)
  · exact .inl (by simp)

theorem Displaced.push_append_eq (h : Displaced x a b a' b') : a.push x ++ b = a'.push x ++ b' := by
  obtain ⟨m, ⟨rfl, rfl⟩ | ⟨rfl, rfl⟩⟩ := h <;> simp [← String.toList_inj]

/-- The case of two pairs joined alike in which one of the first texts starts with the other. -/
theorem displaced_of_toList_eq {m : List Char} (ha : a'.toList = a.toList ++ m)
    (h : x :: b.toList = m ++ x :: b'.toList) : (a = a' ∧ b = b') ∨ Displaced x a b a' b' := by
  -- the separator stands at once, or behind what the longer first text has more
  rcases List.cons_eq_append_iff.mp h with ⟨rfl, hb⟩ | ⟨m, rfl, hb⟩
  · rw [List.append_nil, String.toList_inj] at ha
    rw [List.cons.injEq, String.toList_inj] at hb
    exact .inl ⟨ha.symm, hb.2.symm⟩
  · refine .inr ⟨String.ofList m, .inl ⟨?_, ?_⟩⟩
    · rw [← String.toList_inj, ha]
      simp
    · rw [← String.toList_inj, hb]
      simp

/-- **Two pairs are joined alike** when they are the same, or their separator is displaced. -/
theorem push_append_eq_iff :
    a.push x ++ b = a'.push x ++ b' ↔ (a = a' ∧ b = b') ∨ Displaced x a b a' b' := by
  constructor
  · intro h
    have hlist : a.toList ++ x :: b.toList = a'.toList ++ x :: b'.toList := by
      simpa [← String.toList_inj] using h
    -- one of the first texts is as long as the other or longer
    rcases List.append_eq_append_iff.mp hlist with ⟨m, ha, hb⟩ | ⟨m, ha, hb⟩
    · exact displaced_of_toList_eq ha hb
    · exact (displaced_of_toList_eq ha hb).imp (.imp .symm .symm) .symm
  · rintro (⟨rfl, rfl⟩ | h)
    · rfl
    · exact h.push_append_eq

end

end Text

open Text

/-! ## Names -/

namespace Coordinate

theorem product_eq (c : Coordinate) : c.product = c.groupId.push ':' ++ c.artifactId := by
  simp [product, ← String.toList_inj]

theorem product_eq_product_iff {c d : Coordinate} : c.product = d.product ↔
    (c.groupId = d.groupId ∧ c.artifactId = d.artifactId) ∨
      Displaced ':' c.groupId c.artifactId d.groupId d.artifactId := by
  rw [product_eq, product_eq]
  exact push_append_eq_iff

end Coordinate

namespace Revision

variable {r s : Revision}

theorem uri_eq (r : Revision) :
    r.uri = "fasten://" ++ (r.forge.push '!' ++ (r.product.push '$' ++ r.version)) := by
  simp [uri, uriOf, ← String.toList_inj]

/-- **Two revisions have one uri** when they agree in all three parts of it, or one of its
separators is displaced. -/
theorem uri_eq_uri_iff : r.uri = s.uri ↔
    (r.forge = s.forge ∧ r.product = s.product ∧ r.version = s.version) ∨
    (r.forge = s.forge ∧ Displaced '$' r.product r.version s.product s.version) ∨
    Displaced '!' r.forge (r.product.push '$' ++ r.version) s.forge
      (s.product.push '$' ++ s.version) := by
  rw [uri_eq, uri_eq, String.append_right_inj, push_append_eq_iff, push_append_eq_iff, and_or_left,
    or_assoc]

theorem uri_eq_uri_iff_of_forge_eq (h : r.forge = s.forge) : r.uri = s.uri ↔
    (r.product = s.product ∧ r.version = s.version) ∨
      Displaced '$' r.product r.version s.product s.version := by
  rw [uri_eq, uri_eq, h, String.append_right_inj, String.append_right_inj, push_append_eq_iff]

end Revision

/-! ## Records -/

/-- The parts of a coordinate are texts in the record. -/
structure Coordinate.IsTextIn (record : Json) (c : Coordinate) : Prop where
  groupId_eq : record.member? "groupId" = some (.text c.groupId)
  artifactId_eq : record.member? "artifactId" = some (.text c.artifactId)
  version_eq : record.member? "version" = some (.text c.version)

theorem Coordinate.IsTextIn.ofRecord_eq {record : Json} {c : Coordinate} (h : c.IsTextIn record) :
    Coordinate.ofRecord record = .ok c :=
  Coordinate.ofRecord_eq_ok_iff.mpr ⟨⟨_, h.groupId_eq, rfl⟩, ⟨_, h.artifactId_eq, rfl⟩,
    ⟨_, h.version_eq, rfl⟩⟩

namespace EngineProducer

/-- A revision that is produced under a forge for the record of a release, whatever the files are
and whatever the engine does. -/
inductive Makes (forge : String) (record : Json) (r : Revision) : Prop
  | of {σ : Type} (p : EngineProducer) (run : Engine.Runner σ) (w : Workplace)
      (site : Engine.Site σ) (c : Coordinate) (time : Int) (hforge : p.forge = forge)
      (hrecord : Coordinate.ofRecord record = .ok c)
      (hresult : (p.produce run w site c time).2.result = .ok r) : Makes forge record r

/-- What is made of a record has its names. -/
theorem Makes.fields_eq {forge : String} {record : Json} {r : Revision} {c : Coordinate}
    (h : Makes forge record r) (hc : Coordinate.ofRecord record = .ok c) :
    r.forge = forge ∧ r.product = c.product ∧ r.version = c.version := by
  obtain ⟨p, run, w, site, d, time, hforge, hrecord, hresult⟩ := h
  cases hc.symm.trans hrecord
  obtain ⟨-, hf, hp, hv, -⟩ := revision_of_produce hresult
  exact ⟨hf.trans hforge, hp, hv⟩

theorem Makes.uri_eq {forge : String} {record : Json} {r : Revision} {c : Coordinate}
    (h : Makes forge record r) (hc : Coordinate.ofRecord record = .ok c) :
    r.uri = Revision.uriOf forge c.product c.version := by
  obtain ⟨hforge, hproduct, hversion⟩ := h.fields_eq hc
  rw [Revision.uri, hforge, hproduct, hversion]

/-- **When two revisions have one uri**: they agree in what it is made of, or a separator of it is
displaced.  For what is made under one forge this is said of the records. -/
theorem uri_eq_iff (r s : Revision) :
    (r.uri = s.uri ↔
      (r.forge = s.forge ∧ r.product = s.product ∧ r.version = s.version) ∨
      (r.forge = s.forge ∧ Displaced '$' r.product r.version s.product s.version) ∨
      Displaced '!' r.forge (r.product.push '$' ++ r.version) s.forge
        (s.product.push '$' ++ s.version)) ∧
    ∀ (forge : String) (record record' : Json) (c d : Coordinate),
      c.IsTextIn record → d.IsTextIn record' → Makes forge record r → Makes forge record' s →
      (r.uri = s.uri ↔
        (c.groupId = d.groupId ∧ c.artifactId = d.artifactId ∧ c.version = d.version) ∨
        (Displaced ':' c.groupId c.artifactId d.groupId d.artifactId ∧ c.version = d.version) ∨
        Displaced '$' c.product c.version d.product d.version) := by
  refine ⟨Revision.uri_eq_uri_iff, fun forge record record' c d hc hd hr hs ↦ ?_⟩
  obtain ⟨hforge, hproduct, hversion⟩ := hr.fields_eq hc.ofRecord_eq
  obtain ⟨hforge', hproduct', hversion'⟩ := hs.fields_eq hd.ofRecord_eq
  rw [Revision.uri_eq_uri_iff_of_forge_eq (hforge.trans hforge'.symm), hproduct, hproduct',
    hversion, hversion', Coordinate.product_eq_product_iff, or_and_right, and_assoc, or_assoc]

/-! ### Records that an engine is run for -/

/-- The record of a coordinate. -/
def sampleRecord (c : Coordinate) : Json :=
  .object [("groupId", .text c.groupId), ("artifactId", .text c.artifactId),
    ("version", .text c.version)]

theorem isTextIn_sampleRecord (c : Coordinate) : c.IsTextIn (sampleRecord c) := ⟨rfl, rfl, rfl⟩

/-- What is produced for a coordinate by an engine that leaves the facts of a type. -/
def sampleResult (c : Coordinate) : Result Revision :=
  (sampleProducer.produce (sampleRun sampleFacts) sampleWorkplace (sampleSite c) c 0).2.result

theorem exists_makes_sampleRecord {c : Coordinate} (h : (sampleResult c).isOk = true) :
    ∃ r, Makes "mvn" (sampleRecord c) r := by
  obtain ⟨r, hr⟩ := exists_eq_ok_of_isOk h
  exact ⟨r, .of _ _ _ _ _ _ rfl (isTextIn_sampleRecord c).ofRecord_eq hr⟩

/-- A release of another artifact. -/
def sampleNeighbour : Coordinate := { sampleCoordinate with artifactId := "b" }

theorem uri_eq_iff_sample : ∃ r s : Revision,
    sampleCoordinate.IsTextIn (sampleRecord sampleCoordinate) ∧
    sampleNeighbour.IsTextIn (sampleRecord sampleNeighbour) ∧
    Makes "mvn" (sampleRecord sampleCoordinate) r ∧ Makes "mvn" (sampleRecord sampleNeighbour) s ∧
    r.uri ≠ s.uri := by
  obtain ⟨r, hr⟩ := exists_makes_sampleRecord (c := sampleCoordinate) (by decide +kernel)
  obtain ⟨s, hs⟩ := exists_makes_sampleRecord (c := sampleNeighbour) (by decide +kernel)
  have hc := isTextIn_sampleRecord sampleCoordinate
  have hd := isTextIn_sampleRecord sampleNeighbour
  refine ⟨r, s, hc, hd, hr, hs, fun h ↦ ?_⟩
  rcases ((uri_eq_iff r s).2 "mvn" _ _ _ _ hc hd hr hs).mp h with ⟨-, hartifact, -⟩ | ⟨h, -⟩ | h
  · exact absurd hartifact (by decide)
  · exact absurd h.mem (by decide)
  · exact absurd h.mem (by decide)

/-- A coordinate with a dollar sign in the artifact. -/
def sampleDollarInArtifact : Coordinate := ⟨"a", "b$c", "1"⟩

/-- A coordinate with the same dollar sign in the version. -/
def sampleDollarInVersion : Coordinate := ⟨"a", "b", "c$1"⟩

/-- **A uri need not tell its revision**: a dollar sign may stand in an artifact or in a version. -/
theorem exists_uri_eq_of_ne : ∃ r s : Revision,
    sampleDollarInArtifact.IsTextIn (sampleRecord sampleDollarInArtifact) ∧
    sampleDollarInVersion.IsTextIn (sampleRecord sampleDollarInVersion) ∧
    Makes "mvn" (sampleRecord sampleDollarInArtifact) r ∧
    Makes "mvn" (sampleRecord sampleDollarInVersion) s ∧ r.uri = s.uri ∧
    sampleDollarInArtifact.artifactId ≠ sampleDollarInVersion.artifactId ∧
    sampleDollarInArtifact.version ≠ sampleDollarInVersion.version ∧
    r.product ≠ s.product ∧ r.version ≠ s.version := by
  obtain ⟨r, hr⟩ := exists_makes_sampleRecord (c := sampleDollarInArtifact) (by decide +kernel)
  obtain ⟨s, hs⟩ := exists_makes_sampleRecord (c := sampleDollarInVersion) (by decide +kernel)
  have hc := isTextIn_sampleRecord sampleDollarInArtifact
  have hd := isTextIn_sampleRecord sampleDollarInVersion
  obtain ⟨-, hproduct, hversion⟩ := hr.fields_eq hc.ofRecord_eq
  obtain ⟨-, hproduct', hversion'⟩ := hs.fields_eq hd.ofRecord_eq
  refine ⟨r, s, hc, hd, hr, hs, ?_, by decide, by decide, ?_, ?_⟩
  · rw [hr.uri_eq hc.ofRecord_eq, hs.uri_eq hd.ofRecord_eq]
    decide
  · rw [hproduct, hproduct']
    decide
  · rw [hversion, hversion']
    decide

end EngineProducer

end RevisionGraph
