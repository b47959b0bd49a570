import RevisionGraph.Maven.Repository
import RevisionGraph.Proofs.Files.Lexical
import RevisionGraph.Proofs.Maven.Record

/-!
# Whether an artifact lies in its repository

A coordinate is any three texts, and they become components of the path of the artifact as they are.
So whether that path leads below the root of the repository is up to the coordinate.

* **Components.**  The `pieces` of a coordinate are what is appended to the root one after the
  other, and its `components` the names and double dots in them.
* **Leading out.**  A piece that is anchored discards the root, and double dots climb out of it.
  `StaysBelow` says that neither happens; the name of the file, which comes last, never climbs.
* **The path.**  `isBelow_artifactPath_iff` says that this is exactly what takes the path below the
  root of every repository.  Nothing asks for it, though: `exists_not_isBelow` finds a file outside.
-/

set_option autoImplicit false

namespace RevisionGraph

namespace Text

theorem splitChars_of_not_mem {sep : Char} {cs : List Char} (h : sep ∉ cs) :
    splitChars sep cs = [cs] := by
  induction cs with
  | nil => rfl
  | cons c rest ih =>
    rw [List.mem_cons, not_or] at h
    rw [splitChars, if_neg (Ne.symm h.1), ih h.2]

/-- What has no separator and stands at the end belongs to the last piece. -/
theorem exists_splitChars_append {sep : Char} {ds : List Char} (h : sep ∉ ds) (cs : List Char) :
    ∃ front last, splitChars sep (cs ++ ds) = front ++ [last ++ ds] := by
  induction cs with
  | nil => exact ⟨[], [], splitChars_of_not_mem h⟩
  | cons c rest ih =>
    obtain ⟨front, last, hrest⟩ := ih
    rw [List.cons_append, splitChars, hrest]
    split
    · exact ⟨[] :: front, last, rfl⟩
    · cases front with
      | nil => exact ⟨[], c :: last, rfl⟩
      | cons piece more => exact ⟨(c :: piece) :: more, last, rfl⟩

end Text

namespace Path

/-! ## Appending texts -/

theorem isPart_of_mem_ofText {s part : String} (h : part ∈ (ofText s).parts) :
    isPart part = true :=
  (List.mem_filter.mp h).2

/-- The last component of a file name with a suffix is a name. -/
theorem exists_parts_ofText_jar (s : String) : ∃ front name,
    (ofText (s ++ ".jar")).parts = front ++ [name] ∧ name ≠ ".." := by
  obtain ⟨front, last, hsplit⟩ :=
    Text.exists_splitChars_append (show '/' ∉ ".jar".toList by decide) s.toList
  have hlong : ∀ t : String, t.toList.length < 4 →
      String.ofList (last ++ ".jar".toList) ≠ t := by
    rintro t ht rfl
    rw [String.toList_ofList, List.length_append] at ht
    exact absurd (Nat.le_add_left 4 last.length) (Nat.not_le.mpr ht)
  have hpart : isPart (String.ofList (last ++ ".jar".toList)) = true := by
    rw [isPart, Bool.and_eq_true, bne_iff_ne, bne_iff_ne]
    exact ⟨hlong "" (by decide), hlong "." (by decide)⟩
  refine ⟨(front.map String.ofList).filter isPart, _, ?_, hlong ".." (by decide)⟩
  rw [ofText, Text.split, String.toList_append, hsplit, List.map_append, List.filter_append,
    List.map_singleton, List.filter_singleton, hpart]
  rfl

/-- Texts that are not anchored come behind the path, component by component. -/
theorem foldl_append_of_relative {pieces : List String}
    (h : ∀ s ∈ pieces, anchorOf s = .relative) (p : Path) : pieces.foldl append p =
      { p with parts := p.parts ++ pieces.flatMap fun s ↦ (ofText s).parts } := by
  induction pieces generalizing p with
  | nil => rw [List.flatMap_nil, List.append_nil]; rfl
  | cons s rest ih =>
    rw [List.forall_mem_cons] at h
    have hs : p.append s = { p with parts := p.parts ++ (ofText s).parts } := if_pos h.1
    rw [List.foldl_cons, hs, ih h.2, List.flatMap_cons, List.append_assoc]

/-- A path that is not anchored in the end has never been. -/
theorem relative_of_foldl_append {pieces : List String} {p : Path}
    (h : (pieces.foldl append p).anchor = .relative) :
    p.anchor = .relative ∧ ∀ s ∈ pieces, anchorOf s = .relative := by
  induction pieces generalizing p with
  | nil => exact ⟨h, List.forall_mem_nil _⟩
  | cons s rest ih =>
    obtain ⟨hs, hrest⟩ := ih h
    rw [append, join] at hs
    split at hs
    · next hanchor => exact ⟨hs, List.forall_mem_cons.mpr ⟨hanchor, hrest⟩⟩
    · next hanchor => exact absurd hs hanchor

end Path

namespace Coordinate

/-! ## Components -/

/-- What is appended to the root of a repository for a coordinate. -/
def pieces (c : Coordinate) : List String :=
  Text.split '.' c.groupId ++
    [c.artifactId, c.version, c.artifactId ++ "-" ++ c.version ++ ".jar"]

/-- The components of the path to an artifact, from the root of the repository on. -/
def components (c : Coordinate) : List String := c.pieces.flatMap fun s ↦ (Path.ofText s).parts

/-- No piece is anchored, and the components never climb out of where they start. -/
structure StaysBelow (c : Coordinate) : Prop where
  relative : ∀ s ∈ c.pieces, Path.anchorOf s = .relative
  contained : Path.IsContained c.components

instance (c : Coordinate) : Decidable c.StaysBelow :=
  decidable_of_iff ((∀ s ∈ c.pieces, Path.anchorOf s = .relative) ∧ Path.IsContained c.components)
    ⟨fun h ↦ ⟨h.1, h.2⟩, fun h ↦ ⟨h.relative, h.contained⟩⟩

theorem isPart_of_mem_components {c : Coordinate} {part : String} (h : part ∈ c.components) :
    Path.isPart part = true := by
  obtain ⟨s, -, hs⟩ := List.mem_flatMap.mp h
  exact Path.isPart_of_mem_ofText hs

/-- The last component is a name, so contained components have more names than double dots. -/
theorem count_lt_countP_components {c : Coordinate} (h : Path.IsContained c.components) :
    c.components.count ".." < c.components.countP (· != "..") := by
  obtain ⟨front, name, hparts, hname⟩ :=
    Path.exists_parts_ofText_jar (c.artifactId ++ "-" ++ c.version)
  obtain ⟨before, hbefore⟩ : ∃ before, c.components = before ++ [name] := by
    refine ⟨(Text.split '.' c.groupId ++ [c.artifactId, c.version]).flatMap
      (fun s ↦ (Path.ofText s).parts) ++ front, ?_⟩
    simp only [components, pieces, List.flatMap_append, List.flatMap_cons, List.flatMap_nil,
      hparts, List.append_nil, List.append_assoc]
  have hfront := h before ⟨[name], hbefore.symm⟩
  obtain ⟨hups, hothers⟩ := Path.count_concat_name before hname
  rw [hbefore]
  omega

/-- No coordinate is refused for what its texts hold. -/
theorem exists_ofRecord_eq_ok (c : Coordinate) : ∃ record, ofRecord record = .ok c :=
  ⟨.object [("groupId", .text c.groupId), ("artifactId", .text c.artifactId),
    ("version", .text c.version)], rfl⟩

end Coordinate

namespace Repository

/-! ## The path -/

theorem artifactPath_eq (r : Repository) (c : Coordinate) :
    r.artifactPath c = c.pieces.foldl Path.append r.root := by
  rw [artifactPath, Coordinate.pieces, List.foldl_append]
  rfl

/-- What is found is the path of the artifact. -/
theorem eq_artifactPath_of_resolve {r : Repository} {files : FileTree} {cwd : Place}
    {c : Coordinate} {path : Path} (h : r.resolve files cwd c = .ok path) :
    path = r.artifactPath c := by
  rw [resolve] at h
  split at h
  · cases h
  · split at h
    · exact (Except.ok.inj h).symm
    · cases h
    · cases h

/-- **Which artifacts lie in their repository.**  Every coordinate is that of some record, and its
artifact lies below the root of every repository exactly if no piece of it is anchored and its
components are contained; then so does whatever a repository finds for it. -/
theorem isBelow_artifactPath_iff (c : Coordinate) :
    (∃ record, Coordinate.ofRecord record = .ok c) ∧
      ((∀ r : Repository, (r.artifactPath c).IsBelow r.root) ↔ c.StaysBelow) ∧
      ∀ (r : Repository) files cwd path, r.resolve files cwd c = .ok path →
        path = r.artifactPath c ∧ (c.StaysBelow → path.IsBelow r.root) := by
  have hparts : ∀ part ∈ c.components, Path.isPart part = true :=
    fun _ ↦ Coordinate.isPart_of_mem_components
  have hbelow : c.StaysBelow → ∀ r : Repository, (r.artifactPath c).IsBelow r.root := by
    intro h r
    rw [artifactPath_eq, Path.foldl_append_of_relative h.relative]
    exact (Path.forall_isBelow_iff hparts).mpr
      ⟨h.contained, Coordinate.count_lt_countP_components h.contained⟩ r.root
  refine ⟨c.exists_ofRecord_eq_ok, ⟨fun h ↦ ?_, hbelow⟩, fun r files cwd path hpath ↦ ?_⟩
  · -- from the current directory on, an anchored piece would anchor the path
    have hrelative := (Path.relative_of_foldl_append (p := Path.here)
      (artifactPath_eq ⟨.here⟩ c ▸ (h ⟨.here⟩).1)).2
    refine ⟨hrelative, ((Path.forall_isBelow_iff hparts).mp fun p ↦ ?_).1⟩
    have hp := h ⟨p⟩
    rwa [artifactPath_eq, Path.foldl_append_of_relative hrelative] at hp
  · have heq := eq_artifactPath_of_resolve hpath
    exact ⟨heq, fun h ↦ heq ▸ hbelow h r⟩

example : (⟨"com.g2forge.alexandria", "alexandria", "0.0.9"⟩ : Coordinate).StaysBelow := by
  decide +kernel

/-- A repository at the top. -/
def sampleRoot : Path := ⟨.root, ["repo"]⟩

/-- A record that leads out of its group. -/
def sampleRecord : Json :=
  .object [("groupId", .text "g"), ("artifactId", .text ".."), ("version", .text "..")]

/-- A repository with one group, and a file beside the repository. -/
def sampleTree : FileTree :=
  ((FileTree.empty.add ["repo"] .directory (rightsOf 7 5 5)).add ["repo", "g"] .directory
    (rightsOf 7 5 5)).add ["..-...jar"] (.file []) (rightsOf 6 4 4)

/-- A record leads to a file that does not lie in the repository. -/
theorem exists_not_isBelow : ∃ c path, Coordinate.ofRecord sampleRecord = .ok c ∧
    (⟨sampleRoot⟩ : Repository).resolve sampleTree [] c = .ok path ∧
      ¬ path.IsBelow sampleRoot := by
  refine ⟨⟨"g", "..", ".."⟩, ⟨.root, ["repo", "g", "..", "..", "..-...jar"]⟩, by decide +kernel,
    by decide +kernel, ?_⟩
  rintro ⟨-, rest, -, -, hrest⟩
  have hpath : (⟨.root, ["repo", "g", "..", "..", "..-...jar"]⟩ : Path).lexical.parts =
      ["..-...jar"] := by
    decide +kernel
  have hroot : sampleRoot.lexical.parts = ["repo"] := by decide +kernel
  rw [hpath, hroot] at hrest
  exact absurd (List.cons.inj hrest).1 (by decide)

end Repository

end RevisionGraph
