import RevisionGraph.Proofs.Files.Growth

/-!
# What a path is written to

What was opened by a path is filled from then on, and the path goes on leading there.  Before it was
opened the place is not known from the path, for the directories that are made first may be what
takes the path to another file than before.

* **Bytes.**  `bytesAt` is what is in the file at a place, and `Keeps` says that no file has other
  bytes than before; making directories keeps all, `keeps_makeDirectories`.
* **Paths.**  `LeadsToFiles` rules out pipes and devices, which take what is written and hold
  nothing.  `LeadsTo` says which file a path leads to, and stays true.
* **Opening.**  By `open_spec` what could be opened is the file that the path leads to from then on,
  and if it led to a file before it is that one.
-/

set_option autoImplicit false

namespace RevisionGraph.FileTree

variable {t u v : FileTree} {cwd place q : Place} {p : Path} {bytes : Text.Bytes}

/-! ## Bytes -/

/-- What is in the file at a place, which is nothing where there is no file. -/
def bytesAt (t : FileTree) (place : Place) : Text.Bytes :=
  match t.content? place with
  | some (.file bytes) => bytes
  | _ => []

theorem bytesAt_of_file (h : t.content? place = some (.file bytes)) : t.bytesAt place = bytes := by
  rw [bytesAt, h]

theorem bytesAt_of_none (h : t.content? place = none) : t.bytesAt place = [] := by
  rw [bytesAt, h]

theorem kind?_of_file (h : t.content? place = some (.file bytes)) :
    t.kind? place = some (.file []) := by
  rw [kind?, h]
  rfl

theorem kind?_eq_none_iff : t.kind? place = none ↔ t.content? place = none :=
  Option.map_eq_none_iff

/-- No file was lost, and none holds other bytes; what came are directories and empty files. -/
structure Keeps (t u : FileTree) : Prop where
  growsTo : t.GrowsTo u
  bytesAt_eq : ∀ place, u.bytesAt place = t.bytesAt place

theorem Keeps.refl (t : FileTree) : t.Keeps t := ⟨.refl t, fun _ ↦ rfl⟩

theorem Keeps.trans (h : t.Keeps u) (h' : u.Keeps v) : t.Keeps v :=
  ⟨h.growsTo.trans h'.growsTo, fun place ↦ (h'.bytesAt_eq place).trans (h.bytesAt_eq place)⟩

theorem AddsDirectories.keeps (h : t.AddsDirectories u) : t.Keeps u := by
  refine ⟨h.growsTo, fun place ↦ ?_⟩
  rcases h.content?_eq place with hsame | ⟨hnone, hdir⟩
  · rw [bytesAt, bytesAt, hsame]
  · rw [bytesAt_of_none hnone, bytesAt, hdir]

theorem MakesFile.keeps (h : t.MakesFile u place) : t.Keeps u := by
  refine ⟨h.differsAt.growsTo, fun q ↦ ?_⟩
  rcases h with rfl | ⟨hnone, rfl⟩
  · rfl
  · have hplace : place ≠ [] := ne_nil_of_content? (by rw [hnone]; nofun)
    by_cases hq : q = place
    · rw [hq, bytesAt_of_none hnone, bytesAt_of_file (by rw [content?_add hplace, if_pos rfl])]
    · rw [bytesAt, bytesAt, content?_add hplace, if_neg hq]

theorem keeps_makeDirectories (t : FileTree) (cwd : Place) (p : Path) :
    t.Keeps (t.makeDirectories cwd p).1 :=
  (addsDirectories_makeDirectoriesFor t cwd _ p).keeps

/-! ## Paths -/

/-- Wherever the path leads, once more directories and files are there, is a directory or a file if
anything is there now. -/
def LeadsToFiles (t : FileTree) (cwd : Place) (p : Path) : Prop :=
  ∀ u place, t.GrowsTo u → u.locate cwd p = .ok place →
    t.kind? place = none ∨ t.kind? place = some .directory ∨ t.kind? place = some (.file [])

theorem LeadsToFiles.of_growsTo (h : t.LeadsToFiles cwd p) (hgrows : t.GrowsTo u) :
    u.LeadsToFiles cwd p := by
  intro v place hgrows' hplace
  have hkind := h v place (hgrows.trans hgrows') hplace
  rcases hgrows place with hsame | ⟨-, hnew⟩
  · rwa [hsame]
  · exact .inr hnew

/-- Where nothing is yet, every path will do. -/
theorem leadsToFiles_empty (cwd : Place) (p : Path) : empty.LeadsToFiles cwd p := by
  intro u place _ _
  cases place with
  | nil => exact .inr (.inl rfl)
  | cons name rest => exact .inl rfl

/-- The path leads to a file, and its parent to a directory. -/
structure LeadsTo (t : FileTree) (cwd : Place) (p : Path) (place : Place) : Prop where
  parent : t.isDirectory cwd p.parent = true
  locate : t.locate cwd p = .ok place
  file : t.kind? place = some (.file [])

theorem LeadsTo.of_growsTo (h : t.LeadsTo cwd p place) (hgrows : t.GrowsTo u) :
    u.LeadsTo cwd p place := by
  refine ⟨hgrows.isDirectory h.parent, hgrows.locate h.locate, ?_⟩
  rcases hgrows place with hsame | ⟨hnone, -⟩
  · exact hsame.trans h.file
  · rw [h.file] at hnone
    cases hnone

/-- The file is what is read by the path. -/
theorem LeadsTo.read_eq (h : t.LeadsTo cwd p place) : t.read cwd p = .ok (t.bytesAt place) := by
  obtain ⟨c, hc, hkind⟩ := kind?_eq_some_iff.mp h.file
  rw [read_of_locate h.locate hc]
  cases c with
  | file bytes => rw [bytesAt_of_file hc]; rfl
  | directory => cases hkind
  | link target => cases hkind
  | pipe => cases hkind
  | device d => cases hkind

theorem IsOpenAt.leadsTo {n : Nat} {held : Text.Bytes} (h : t.IsOpenAt cwd p place n held) :
    t.LeadsTo cwd p place :=
  ⟨h.parent, h.leads, kind?_of_file h.holds⟩

theorem LeadsTo.unique (h : t.LeadsTo cwd p place) (h' : t.LeadsTo cwd p q) : place = q :=
  Except.ok.inj (h.locate.symm.trans h'.locate)

/-! ## Opening -/

/-- What can be opened holds what is at its place. -/
theorem LeadsToFiles.opens (h : t.LeadsToFiles cwd p)
    (hmakes : t.makeDirectories cwd p.parent = (u, none)) (hplace : u.locate cwd p = .ok place)
    (hdir : u.content? place ≠ some .directory) : t.Opens cwd p u place (t.bytesAt place) := by
  obtain ⟨hadds, -⟩ := makeDirectories_spec hmakes
  refine ⟨hmakes, hplace, ?_⟩
  rcases hadds.content?_eq place with hsame | ⟨-, hmade⟩
  · rw [hsame] at hdir ⊢
    rcases h u place hadds.growsTo hplace with hnone | hkind | hkind
    · have hnone := kind?_eq_none_iff.mp hnone
      exact .inr ⟨hnone, bytesAt_of_none hnone⟩
    · exact absurd (kind?_eq_directory_iff.mp hkind) hdir
    · obtain ⟨c, hc, hfile⟩ := kind?_eq_some_iff.mp hkind
      cases c with
      | file bytes => exact .inl (by rw [bytesAt_of_file hc, hc])
      | directory => cases hfile
      | link target => cases hfile
      | pipe => cases hfile
      | device d => cases hfile
  · exact absurd hmade hdir

/-- What is opened is no directory. -/
theorem exists_locate_of_openToAppend {n : Nat} (h : u.openToAppend cwd p = .ok (v, n)) :
    ∃ place, u.locate cwd p = .ok place ∧ u.content? place ≠ some .directory := by
  rw [openToAppend] at h
  cases hplace : u.locate cwd p with
  | error cause =>
    rw [hplace] at h
    cases h
  | ok place =>
    refine ⟨place, rfl, fun hdir ↦ ?_⟩
    rw [hplace] at h
    simp only [bind, Except.bind, hdir] at h
    cases h

/-- **What is opened by a path is the file that it leads to from then on**, which is the one that it
led to before if it led to any, and all files hold what they held. -/
theorem LeadsToFiles.open_spec {n : Nat} (h : t.LeadsToFiles cwd p)
    (hmakes : t.makeDirectories cwd p.parent = (u, none))
    (hopen : u.openToAppend cwd p = .ok (v, n)) :
    t.Keeps v ∧ ∃ place, v.IsOpenAt cwd p place n (t.bytesAt place) := by
  obtain ⟨place, hplace, hdir⟩ := exists_locate_of_openToAppend hopen
  have hopens := h.opens hmakes hplace hdir
  obtain ⟨v', n', hopen', hisOpen, hmade⟩ := hopens.openToAppend
  cases hopen'.symm.trans hopen
  obtain ⟨hadds, -⟩ := makeDirectories_spec hmakes
  exact ⟨hadds.keeps.trans hmade.keeps, place, hisOpen⟩

end RevisionGraph.FileTree
