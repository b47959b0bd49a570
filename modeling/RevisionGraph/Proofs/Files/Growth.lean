import RevisionGraph.Files.Tree
import RevisionGraph.Proofs.OrderedMap

/-!
# File trees that grow

Making directories and appending to a file take nothing away: what was at a place is still there, of
the same kind.  So every path leads where it led before.

* **Places.**  `content?_add` and `node?_modifyNode` say what a change makes of every place.
* **Paths.**  `GrowsTo t u` says that nothing was taken away, and `GrowsTo.locate` that paths lead
  to where they led; `step_eq_ok_iff` lists the ways in which a name of a path can lead on.
* **Directories.**  `makeDirectories_spec`: where it succeeds the directory is there, and nothing
  else changed; `makeDirectories_of_isDirectory`: a second time it does nothing.
* **Files.**  `Opens` says that a path leads to what can be opened, and `IsOpenAt` that it leads to
  what was opened under a number.  What is appended comes last, `IsOpenAt.appendTo`, and
  `DiffersAt.read_eq`: files with other numbers are read as before.
-/

set_option autoImplicit false

namespace RevisionGraph

open OrderedMap

/-- The kind of a content: all but what is written in a file. -/
def Content.kind : Content → Content
  | .file _ => .file []
  | c => c

theorem Content.kind_eq_directory_iff {c : Content} : c.kind = .directory ↔ c = .directory := by
  cases c <;> simp [kind]

theorem Content.kind_eq_link_iff {c : Content} {target : String} :
    c.kind = .link target ↔ c = .link target := by
  cases c <;> simp [kind]

/-- What reading gives. -/
def Content.reading : Content → Except FileCause Text.Bytes
  | .file bytes => .ok bytes
  | .directory => .error .isADirectory
  | .link _ | .pipe | .device _ => .ok []

namespace FileTree

/-- The kind of what is at a place. -/
def kind? (t : FileTree) (place : Place) : Option Content := (t.content? place).map Content.kind

variable {t u v : FileTree} {cwd place q : Place} {p : Path}

/-! ## Places -/

theorem content?_nil (t : FileTree) : t.content? [] = some .directory := rfl

theorem ne_nil_of_content? (h : t.content? place ≠ some .directory) : place ≠ [] := by
  rintro rfl
  exact h t.content?_nil

theorem number?_of_ne_nil (h : q ≠ []) : t.number? q = t.numbers.find? q := by
  rw [number?, List.isEmpty_eq_false_iff.mpr h]
  rfl

theorem node?_of_ne_nil (h : q ≠ []) :
    t.node? q = (t.numbers.find? q).bind t.nodes.find? := by
  rw [node?, List.isEmpty_eq_false_iff.mpr h]
  rfl

theorem number?_lt_fresh {n : Nat} (h : q ≠ []) (hn : t.number? q = some n) : n < t.fresh :=
  t.lt_fresh n (mem_values_of_find? (number?_of_ne_nil h ▸ hn))

/-- What is there has a number. -/
theorem exists_number?_of_content? {c : Content} (h : t.content? q = some c) :
    ∃ n, t.number? q = some n := by
  by_cases hq : q = []
  · exact ⟨rootNumber, by rw [hq]; rfl⟩
  · rw [content?, node?_of_ne_nil hq, Option.map_eq_some_iff] at h
    obtain ⟨node, hnode, -⟩ := h
    obtain ⟨n, hn, -⟩ := Option.bind_eq_some_iff.mp hnode
    exact ⟨n, (number?_of_ne_nil hq).trans hn⟩

theorem number?_add (hplace : place ≠ []) (content : Content) (rights : Nat) (q : Place) :
    (t.add place content rights).number? q = if q = place then some t.fresh else t.number? q := by
  by_cases hq : q = []
  · rw [if_neg (hq ▸ Ne.symm hplace), hq]
    rfl
  · rw [number?_of_ne_nil hq, number?_of_ne_nil hq]
    exact find?_insert _ _ _ _

/-- A new node is at its place, and at every other place is what was there. -/
theorem content?_add (hplace : place ≠ []) (content : Content) (rights : Nat) (q : Place) :
    (t.add place content rights).content? q =
      if q = place then some content else t.content? q := by
  by_cases hq : q = []
  · rw [if_neg (hq ▸ Ne.symm hplace), hq]
    rfl
  · rw [content?, content?, node?_of_ne_nil hq, node?_of_ne_nil hq, add, find?_insert]
    split
    · rw [Option.bind_some, find?_insert, if_pos rfl]
      rfl
    · cases hn : t.numbers.find? q with
      | none => rfl
      | some n =>
        have hlt := t.lt_fresh n (mem_values_of_find? hn)
        rw [Option.bind_some, Option.bind_some, find?_insert, if_neg (Nat.ne_of_lt hlt)]

theorem number?_modifyNode (t : FileTree) (n : Nat) (f : Node → Node) (q : Place) :
    (t.modifyNode n f).number? q = t.number? q := by
  rw [modifyNode]
  split <;> rfl

/-- A node changes under all its names. -/
theorem node?_modifyNode (t : FileTree) (n : Nat) (f : Node → Node) (hq : q ≠ []) :
    (t.modifyNode n f).node? q =
      if t.number? q = some n then (t.node? q).map f else t.node? q := by
  rw [number?_of_ne_nil hq, node?_of_ne_nil hq, node?_of_ne_nil hq, modifyNode]
  cases hnode : t.nodes.find? n with
  | none =>
    simp only
    split
    · next hn => rw [hn, Option.bind_some, hnode]; rfl
    · rfl
  | some node =>
    cases t.numbers.find? q with
    | none => rfl
    | some m =>
      simp only [Option.bind_some, find?_insert, Option.some.injEq]
      split
      · next heq => rw [heq, hnode]; rfl
      · rfl

/-- What is at a place is told by its number. -/
theorem content?_of_number?_eq (hq : q ≠ []) (hplace : place ≠ [])
    (h : t.number? q = t.number? place) : t.content? q = t.content? place := by
  rw [number?_of_ne_nil hq, number?_of_ne_nil hplace] at h
  rw [content?, content?, node?_of_ne_nil hq, node?_of_ne_nil hplace, h]

/-! ## Paths -/

/-- Nothing was taken away: at every place is the same kind of thing, or a directory or file where
nothing was. -/
def GrowsTo (t u : FileTree) : Prop :=
  ∀ q, u.kind? q = t.kind? q ∨
    t.kind? q = none ∧ (u.kind? q = some .directory ∨ u.kind? q = some (.file []))

theorem GrowsTo.refl (t : FileTree) : t.GrowsTo t := fun _ ↦ .inl rfl

theorem GrowsTo.trans (h : t.GrowsTo u) (h' : u.GrowsTo v) : t.GrowsTo v := by
  intro q
  rcases h q with hu | ⟨ht, hu⟩
  · rw [← hu]
    exact h' q
  · rcases h' q with hv | ⟨hnone, -⟩
    · exact .inr ⟨ht, hv ▸ hu⟩
    · rw [hnone] at hu
      rcases hu with hu | hu <;> cases hu

theorem isDirectoryAt_iff : t.isDirectoryAt q = true ↔ t.content? q = some .directory := by
  rw [isDirectoryAt, beq_iff_eq]

theorem kind?_eq_some_iff {c : Content} :
    t.kind? q = some c ↔ ∃ d, t.content? q = some d ∧ d.kind = c :=
  Option.map_eq_some_iff

theorem kind?_eq_directory_iff : t.kind? q = some .directory ↔ t.content? q = some .directory := by
  rw [kind?_eq_some_iff]
  simp only [Content.kind_eq_directory_iff, exists_eq_right]

theorem kind?_eq_link_iff {target : String} :
    t.kind? q = some (.link target) ↔ t.content? q = some (.link target) := by
  rw [kind?_eq_some_iff]
  simp only [Content.kind_eq_link_iff, exists_eq_right]

theorem GrowsTo.content?_directory (h : t.GrowsTo u) (hq : t.content? q = some .directory) :
    u.content? q = some .directory := by
  rw [← kind?_eq_directory_iff] at hq ⊢
  rcases h q with hu | ⟨ht, -⟩
  · exact hu.trans hq
  · rw [ht] at hq
    cases hq

/-- A link is where one was, with the same target. -/
theorem GrowsTo.content?_link_iff (h : t.GrowsTo u) {target : String} :
    u.content? q = some (.link target) ↔ t.content? q = some (.link target) := by
  rw [← kind?_eq_link_iff, ← kind?_eq_link_iff]
  rcases h q with hu | ⟨ht, hu⟩
  · rw [hu]
  · rw [ht]
    rcases hu with hu | hu <;> simp [hu]

theorem isSome_kind?_iff : (t.kind? q).isSome ↔ (t.content? q).isSome := by
  rw [kind?, Option.isSome_map]

theorem GrowsTo.isSome_content? (h : t.GrowsTo u) (hq : (t.content? q).isSome) :
    (u.content? q).isSome := by
  rw [← isSome_kind?_iff] at hq ⊢
  rcases h q with hu | ⟨ht, -⟩
  · exact hu ▸ hq
  · rw [ht] at hq
    cases hq

section

variable {last : Bool} {jump jump' : Place → List String → Except FileCause Place} {name : String}
  {rest : List String}

/-- Where a link leads, followed by other names. -/
def Follows (last : Bool) (jump : Place → List String → Except FileCause Place) (place : Place)
    (name : String) (rest : List String) (target : String) (q : Place) : Prop :=
  (if rest.isEmpty && !last then .ok (place ++ [name])
    else jump (if target.startsWith "/" then [] else place)
      ((Text.split '/' target).filter (· != "") ++ rest)) = .ok q

/-- The ways in which one name leads on: nowhere else, upwards, through a link, or to what has the
name, which need not be there if it comes last. -/
theorem step_eq_ok_iff : t.step last jump place (name :: rest) = .ok q ↔
    t.content? place = some .directory ∧ ¬ nameLimit < name.utf8ByteSize ∧
      (name = "." ∧ t.step last jump place rest = .ok q ∨
        name = ".." ∧ t.step last jump place.dropLast rest = .ok q ∨
        (name ≠ "." ∧ name ≠ "..") ∧
          ((∃ target, t.content? (place ++ [name]) = some (.link target) ∧
              Follows last jump place name rest target q) ∨
            (∀ target, t.content? (place ++ [name]) ≠ some (.link target)) ∧
              (rest = [] ∧ place ++ [name] = q ∨
                rest ≠ [] ∧ (t.content? (place ++ [name])).isSome ∧
                  t.step last jump (place ++ [name]) rest = .ok q))) := by
  rw [step, ← isDirectoryAt_iff]
  cases t.isDirectoryAt place with
  | false => simp
  | true =>
    simp only [Bool.not_true, Bool.false_eq_true, if_false, true_and]
    by_cases hlength : nameLimit < name.utf8ByteSize
    · simp [hlength]
    · rw [if_neg hlength, and_iff_right hlength]
      by_cases hdot : name = "."
      · rw [if_pos hdot]
        simp [hdot]
      · rw [if_neg hdot]
        by_cases hdots : name = ".."
        · rw [if_pos hdots]
          simp [hdots]
        · rw [if_neg hdots]
          simp only [hdot, hdots, false_and, false_or, ne_eq, not_false_eq_true, true_and]
          split
          · next target htarget =>
            simp only [htarget, Option.some.injEq, Content.link.injEq, exists_eq_left', Follows]
            simp
          · next c hplain hc =>
            have hlink : ∀ target, c ≠ .link target := hplain
            cases rest <;> simp [hc, hlink]
          · next hnone => cases rest <;> simp [hnone]

theorem Follows.imp {target : String}
    (hjump : ∀ place names, jump place names = .ok q → jump' place names = .ok q)
    (h : Follows last jump place name rest target q) :
    Follows last jump' place name rest target q := by
  rw [Follows] at h ⊢
  split
  · next hend => rwa [if_pos hend] at h
  · next hend =>
    rw [if_neg hend] at h
    exact hjump _ _ h

/-- Names lead to where they led, if that is true of what links lead to. -/
theorem step_of_growsTo (h : t.GrowsTo u)
    (hjump : ∀ place names, jump place names = .ok q → jump' place names = .ok q)
    {names : List String} (hq : t.step last jump place names = .ok q) :
    u.step last jump' place names = .ok q := by
  induction names generalizing place with
  | nil => exact hq
  | cons name rest ih =>
    rw [step_eq_ok_iff] at hq ⊢
    obtain ⟨hdir, hlength, hways⟩ := hq
    refine ⟨h.content?_directory hdir, hlength, hways.imp (And.imp_right ih) (Or.imp
      (And.imp_right ih) (And.imp_right ?_))⟩
    simp only [ne_eq, h.content?_link_iff]
    rintro (⟨target, htarget, hfollows⟩ | ⟨hplain, hend | ⟨hmore, hthere, hrest⟩⟩)
    · exact .inl ⟨target, htarget, hfollows.imp hjump⟩
    · exact .inr ⟨hplain, .inl hend⟩
    · exact .inr ⟨hplain, .inr ⟨hmore, h.isSome_content? hthere, ih hrest⟩⟩

theorem followFor_of_growsTo (h : t.GrowsTo u) {bound : Nat} {names : List String}
    (hq : t.followFor last bound place names = .ok q) :
    u.followFor last bound place names = .ok q := by
  induction bound generalizing place names with
  | zero => exact step_of_growsTo h (fun _ _ hjump ↦ hjump) hq
  | succ bound ih => exact step_of_growsTo h (fun _ _ hjump ↦ ih hjump) hq

end

/-- **Paths lead to where they led.** -/
theorem GrowsTo.locate (h : t.GrowsTo u) (hq : t.locate cwd p = .ok q) :
    u.locate cwd p = .ok q := by
  rw [FileTree.locate] at hq ⊢
  split at hq
  · cases hq
  · next hlength =>
    rw [if_neg hlength]
    exact followFor_of_growsTo h hq

theorem isDirectory_iff : t.isDirectory cwd p = true ↔
    ∃ place, t.locate cwd p = .ok place ∧ t.content? place = some .directory := by
  rw [isDirectory, find]
  cases t.locate cwd p with
  | error cause => simp [bind, Except.bind]
  | ok place =>
    simp only [bind, Except.bind, content?, Except.ok.injEq, exists_eq_left']
    cases t.node? place <;> simp [pure, Except.pure, throw, throwThe, MonadExceptOf.throw]

theorem GrowsTo.isDirectory (h : t.GrowsTo u) (hp : t.isDirectory cwd p = true) :
    u.isDirectory cwd p = true := by
  obtain ⟨place, hplace, hdir⟩ := isDirectory_iff.mp hp
  exact isDirectory_iff.mpr ⟨place, h.locate hplace, h.content?_directory hdir⟩

/-! ## Directories -/

/-- Directories were made where nothing was, and nothing else changed. -/
structure AddsDirectories (t u : FileTree) : Prop where
  content?_eq : ∀ q, u.content? q = t.content? q ∨
    t.content? q = none ∧ u.content? q = some .directory
  number?_eq : ∀ q, (t.content? q).isSome → u.number? q = t.number? q

namespace AddsDirectories

theorem refl (t : FileTree) : t.AddsDirectories t := ⟨fun _ ↦ .inl rfl, fun _ _ ↦ rfl⟩

theorem content?_of_some (h : t.AddsDirectories u) {c : Content} (hq : t.content? q = some c) :
    u.content? q = some c := by
  rcases h.content?_eq q with hu | ⟨ht, -⟩
  · exact hu.trans hq
  · rw [ht] at hq
    cases hq

theorem trans (h : t.AddsDirectories u) (h' : u.AddsDirectories v) : t.AddsDirectories v where
  content?_eq q := by
    rcases h.content?_eq q with hu | ⟨ht, hu⟩
    · exact hu ▸ h'.content?_eq q
    · exact .inr ⟨ht, h'.content?_of_some hu⟩
  number?_eq q hq := by
    obtain ⟨c, hc⟩ := Option.isSome_iff_exists.mp hq
    have hu : (u.content? q).isSome := by rw [h.content?_of_some hc]; rfl
    rw [h'.number?_eq q hu, h.number?_eq q hq]

theorem growsTo (h : t.AddsDirectories u) : t.GrowsTo u := by
  intro q
  rw [kind?, kind?]
  rcases h.content?_eq q with hu | ⟨ht, hu⟩
  · exact .inl (by rw [hu])
  · exact .inr ⟨by rw [ht]; rfl, .inl (by rw [hu]; rfl)⟩

end AddsDirectories

theorem addsDirectories_add (h : t.content? place = none) (rights : Nat) :
    t.AddsDirectories (t.add place .directory rights) := by
  have hplace : place ≠ [] := ne_nil_of_content? (by rw [h]; nofun)
  constructor
  · intro q
    rw [content?_add hplace]
    split
    · next hq => exact .inr ⟨hq ▸ h, rfl⟩
    · exact .inl rfl
  · intro q hq
    rw [number?_add hplace, if_neg]
    rintro rfl
    rw [h] at hq
    cases hq

theorem makeDirectory_eq_ok_iff : t.makeDirectory cwd p = .ok u ↔
    ∃ place, t.locate cwd p = .ok place ∧ t.content? place = none ∧
      u = t.add place .directory directoryRights := by
  rw [makeDirectory]
  cases t.locate cwd p with
  | error cause => simp [bind, Except.bind]
  | ok place =>
    simp only [bind, Except.bind, content?, Except.ok.injEq, exists_eq_left']
    cases t.node? place <;>
      simp [pure, Except.pure, throw, throwThe, MonadExceptOf.throw, eq_comm]

theorem makeDirectory_spec (h : t.makeDirectory cwd p = .ok u) :
    t.AddsDirectories u ∧ u.isDirectory cwd p = true := by
  obtain ⟨place, hplace, hnone, rfl⟩ := makeDirectory_eq_ok_iff.mp h
  have hadds := addsDirectories_add hnone directoryRights
  refine ⟨hadds, isDirectory_iff.mpr ⟨place, hadds.growsTo.locate hplace, ?_⟩⟩
  rw [content?_add (ne_nil_of_content? (by rw [hnone]; nofun)), if_pos rfl]

/-- Making directories makes nothing else, also where it fails on the way. -/
theorem addsDirectories_makeDirectoriesFor (t : FileTree) (cwd : Place) (bound : Nat) (p : Path) :
    t.AddsDirectories (t.makeDirectoriesFor cwd bound p).1 := by
  induction bound generalizing p with
  | zero => exact .refl t
  | succ bound ih =>
    have hrefuse : ∀ {u : FileTree} {cause : FileCause}, t.AddsDirectories u →
        t.AddsDirectories (if u.isDirectory cwd p then (u, none)
          else (u, some ⟨cause, p.toText⟩) : FileTree × Option FileFault).1 := by
      intro u cause hadds
      split <;> exact hadds
    rw [makeDirectoriesFor]
    split
    · next hmade => exact (makeDirectory_spec hmade).1
    · split
      · exact .refl t
      · have hadds := ih p.parent
        split
        · next habove => rwa [habove] at hadds
        · next habove =>
          rw [habove] at hadds
          split
          · next hmade => exact hadds.trans (makeDirectory_spec hmade).1
          · exact hadds
          · exact hrefuse hadds
    · exact hrefuse (.refl t)

/-- **Where making directories succeeds** the directory is there, and only directories were made. -/
theorem makeDirectoriesFor_spec {bound : Nat} (h : t.makeDirectoriesFor cwd bound p = (u, none)) :
    t.AddsDirectories u ∧ u.isDirectory cwd p = true := by
  have hadds := addsDirectories_makeDirectoriesFor t cwd bound p
  rw [h] at hadds
  refine ⟨hadds, ?_⟩
  cases bound with
  | zero => cases h
  | succ bound =>
    have hrefuse : ∀ {t : FileTree} {cause : FileCause}, (if t.isDirectory cwd p then (t, none)
        else (t, some ⟨cause, p.toText⟩) : FileTree × Option FileFault) = (u, none) →
        u.isDirectory cwd p = true := by
      intro t cause h
      split at h
      · next hdir => cases h; exact hdir
      · cases h
    rw [makeDirectoriesFor] at h
    split at h
    · next hmade => cases h; exact (makeDirectory_spec hmade).2
    · split at h
      · cases h
      · split at h
        · cases h
        · split at h
          · next hmade => cases h; exact (makeDirectory_spec hmade).2
          · cases h
          · exact hrefuse h
    · exact hrefuse h

theorem makeDirectories_spec (h : t.makeDirectories cwd p = (u, none)) :
    t.AddsDirectories u ∧ u.isDirectory cwd p = true :=
  makeDirectoriesFor_spec h

/-- A directory that is there is not made again. -/
theorem makeDirectories_of_isDirectory (h : t.isDirectory cwd p = true) :
    t.makeDirectories cwd p = (t, none) := by
  obtain ⟨place, hplace, hdir⟩ := isDirectory_iff.mp h
  obtain ⟨node, hnode, -⟩ := Option.map_eq_some_iff.mp hdir
  have hrefused : t.makeDirectory cwd p = .error .alreadyExists := by
    rw [makeDirectory, hplace]
    simp [bind, Except.bind, hnode, throw, throwThe, MonadExceptOf.throw]
  rw [makeDirectories, makeDirectoriesFor, hrefused]
  simp only [h, if_true]

/-! ## Reading and appending -/

theorem read_of_locate {c : Content} (hplace : t.locate cwd p = .ok place)
    (hc : t.content? place = some c) : t.read cwd p = c.reading := by
  obtain ⟨node, hnode, rfl⟩ := Option.map_eq_some_iff.mp hc
  rw [read, find, hplace]
  simp only [bind, Except.bind, hnode, pure, Except.pure]
  cases node.content <;> rfl

/-- The root is not read, being a directory. -/
theorem exists_locate_of_read {bytes : Text.Bytes} (h : t.read cwd p = .ok bytes) :
    ∃ place c, t.locate cwd p = .ok place ∧ place ≠ [] ∧ t.content? place = some c := by
  have hread := h
  rw [read, find] at h
  cases hplace : t.locate cwd p with
  | error cause =>
    rw [hplace] at h
    cases h
  | ok place =>
    rw [hplace] at h
    cases hnode : t.node? place with
    | none =>
      simp only [bind, Except.bind, hnode] at h
      cases h
    | some node =>
      refine ⟨place, node.content, rfl, ?_, by rw [content?, hnode]; rfl⟩
      rintro rfl
      rw [read_of_locate hplace t.content?_nil] at hread
      cases hread

/-- A file that was read is read again if nothing was done to it. -/
theorem GrowsTo.read {bytes : Text.Bytes} (h : t.GrowsTo u) (hread : t.read cwd p = .ok bytes)
    (hsame : ∀ place, t.locate cwd p = .ok place → place ≠ [] → (t.content? place).isSome →
      u.content? place = t.content? place) : u.read cwd p = .ok bytes := by
  obtain ⟨place, c, hplace, hroot, hc⟩ := exists_locate_of_read hread
  have hu := (hsame place hplace hroot (by rw [hc]; rfl)).trans hc
  rw [read_of_locate (h.locate hplace) hu, ← read_of_locate hplace hc, hread]

/-- The file that a path leads to can be opened.  The directories that lead to it are made
first, of which `u` comes; what is at its place then is a file that holds `held`, or nothing. -/
structure Opens (t : FileTree) (cwd : Place) (p : Path) (u : FileTree) (place : Place)
    (held : Text.Bytes) : Prop where
  makes : t.makeDirectories cwd p.parent = (u, none)
  leads : u.locate cwd p = .ok place
  holds : u.content? place = some (.file held) ∨ u.content? place = none ∧ held = []

/-- The tree is another one at a single node: at every other place is what was there. -/
structure DiffersAt (u v : FileTree) (place : Place) : Prop where
  growsTo : u.GrowsTo v
  apart : ∀ q, q ≠ [] → (u.content? q).isSome → u.number? q ≠ u.number? place →
    v.content? q = u.content? q ∧ v.number? q ≠ v.number? place

/-- What is done at one place, and directories that were made before it, do not touch a file that
has another number, and they leave it another number. -/
theorem DiffersAt.read_eq (h : u.DiffersAt v place) (hadds : t.AddsDirectories u)
    (hread : ∃ bytes, t.read cwd p = .ok bytes)
    (hapart : ∀ q, u.locate cwd p = .ok q → u.number? q ≠ u.number? place) :
    v.read cwd p = t.read cwd p ∧
      ∀ q, v.locate cwd p = .ok q → v.number? q ≠ v.number? place := by
  obtain ⟨bytes, hread⟩ := hread
  have hu : u.read cwd p = .ok bytes := hadds.growsTo.read hread fun q _ _ hq ↦ by
    obtain ⟨c, hc⟩ := Option.isSome_iff_exists.mp hq
    rw [hadds.content?_of_some hc, hc]
  have hv : v.read cwd p = .ok bytes := h.growsTo.read hu fun q hlocate hroot hq ↦
    (h.apart q hroot hq (hapart q hlocate)).1
  refine ⟨hv.trans hread.symm, fun q' hq' ↦ ?_⟩
  obtain ⟨q, c, hlocate, hroot, hc⟩ := exists_locate_of_read hu
  obtain rfl : q = q' := Except.ok.inj ((h.growsTo.locate hlocate).symm.trans hq')
  exact (h.apart q hroot (by rw [hc]; rfl) (hapart q hlocate)).2

theorem differsAt_add (h : u.content? place = none) (bytes : Text.Bytes) (rights : Nat) :
    u.DiffersAt (u.add place (.file bytes) rights) place := by
  have hplace : place ≠ [] := ne_nil_of_content? (by rw [h]; nofun)
  refine ⟨fun q ↦ ?_, fun q hroot hq _ ↦ ?_⟩
  · rw [kind?, kind?, content?_add hplace]
    split
    · next heq => exact .inr ⟨by rw [heq, h]; rfl, .inr rfl⟩
    · exact .inl rfl
  · have hne : q ≠ place := by
      rintro rfl
      rw [h] at hq
      cases hq
    rw [content?_add hplace, number?_add hplace, number?_add hplace, if_neg hne, if_neg hne,
      if_pos rfl]
    exact ⟨rfl, fun hfresh ↦ Nat.lt_irrefl _ (number?_lt_fresh hroot hfresh)⟩

theorem differsAt_modifyNode {held : Text.Bytes} (h : u.content? place = some (.file held))
    {n : Nat} (hn : u.number? place = some n) (bytes : Text.Bytes) (time : Nat) :
    u.DiffersAt (u.modifyNode n fun node ↦ { node with content := .file bytes, time }) place ∧
      (u.modifyNode n fun node ↦ { node with content := .file bytes, time }).content? place =
        some (.file bytes) := by
  have hplace : place ≠ [] := ne_nil_of_content? (by rw [h]; nofun)
  have hcontent : ∀ q, q ≠ [] →
      (u.modifyNode n fun node ↦ { node with content := .file bytes, time }).content? q =
        if u.number? q = u.number? place then some (.file bytes) else u.content? q := by
    intro q hq
    rw [content?, node?_modifyNode u n _ hq, hn]
    split
    · next heq =>
      have hfile := (content?_of_number?_eq hq hplace (heq.trans hn.symm)).trans h
      obtain ⟨node, hnode, -⟩ := Option.map_eq_some_iff.mp hfile
      rw [hnode]
      rfl
    · rfl
  refine ⟨⟨fun q ↦ .inl ?_, fun q hroot _ hne ↦ ?_⟩, by rw [hcontent place hplace, if_pos rfl]⟩
  · rw [kind?, kind?]
    by_cases hroot : q = []
    · rw [hroot, content?_nil, content?_nil]
    · rw [hcontent q hroot]
      split
      · next heq => rw [content?_of_number?_eq hroot hplace heq, h]; rfl
      · rfl
  · rw [hcontent q hroot, if_neg hne, number?_modifyNode, number?_modifyNode]
    exact ⟨rfl, hne⟩

theorem DiffersAt.refl (u : FileTree) (place : Place) : u.DiffersAt u place :=
  ⟨fun _ ↦ .inl rfl, fun _ _ _ hne ↦ ⟨rfl, hne⟩⟩

theorem DiffersAt.trans (h : u.DiffersAt v place) (h' : v.DiffersAt t place) :
    u.DiffersAt t place := by
  refine ⟨h.growsTo.trans h'.growsTo, fun q hroot hq hne ↦ ?_⟩
  obtain ⟨hsame, hapart⟩ := h.apart q hroot hq hne
  obtain ⟨hsame', hapart'⟩ := h'.apart q hroot (hsame ▸ hq) hapart
  exact ⟨hsame'.trans hsame, hapart'⟩

/-- The file that a path leads to is open under a number, and holds `held`.  Its directory is there,
so that nothing is made where it is opened again. -/
structure IsOpenAt (t : FileTree) (cwd : Place) (p : Path) (place : Place) (n : Nat)
    (held : Text.Bytes) : Prop where
  parent : t.isDirectory cwd p.parent = true
  leads : t.locate cwd p = .ok place
  number : t.number? place = some n
  holds : t.content? place = some (.file held)

theorem IsOpenAt.opens {n : Nat} {held : Text.Bytes} (h : t.IsOpenAt cwd p place n held) :
    t.Opens cwd p t place held :=
  ⟨makeDirectories_of_isDirectory h.parent, h.leads, .inl h.holds⟩

theorem IsOpenAt.read_eq {n : Nat} {held : Text.Bytes} (h : t.IsOpenAt cwd p place n held) :
    t.read cwd p = .ok held :=
  read_of_locate h.leads h.holds

/-- An empty file was made at a place where nothing was, or nothing was done. -/
def MakesFile (u v : FileTree) (place : Place) : Prop :=
  v = u ∨ u.content? place = none ∧ v = u.add place (.file []) fileRights

theorem MakesFile.differsAt (h : u.MakesFile v place) : u.DiffersAt v place := by
  rcases h with rfl | ⟨hnone, rfl⟩
  · exact .refl _ place
  · exact differsAt_add hnone [] fileRights

/-- **What can be opened is opened**, and made if it was not there. -/
theorem Opens.openToAppend {held : Text.Bytes} (h : t.Opens cwd p u place held) :
    ∃ v n, u.openToAppend cwd p = .ok (v, n) ∧ v.IsOpenAt cwd p place n held ∧
      u.MakesFile v place := by
  obtain ⟨-, hdir⟩ := makeDirectories_spec h.makes
  rw [FileTree.openToAppend, h.leads]
  rcases h.holds with hfile | ⟨hnone, rfl⟩
  · obtain ⟨n, hn⟩ := exists_number?_of_content? hfile
    simp only [bind, Except.bind, hfile, hn]
    exact ⟨u, n, rfl, ⟨hdir, h.leads, hn, hfile⟩, .inl rfl⟩
  · have hplace : place ≠ [] := ne_nil_of_content? (by rw [hnone]; nofun)
    have hgrows := (differsAt_add hnone [] fileRights).growsTo
    simp only [bind, Except.bind, hnone]
    refine ⟨_, _, rfl, ⟨hgrows.isDirectory hdir, hgrows.locate h.leads, ?_, ?_⟩, .inr ⟨hnone, rfl⟩⟩
    · rw [number?_add hplace, if_pos rfl]
    · rw [content?_add hplace, if_pos rfl]

/-- **What is appended comes last in the file**, which stays open; other files stay as they are. -/
theorem IsOpenAt.appendTo {n : Nat} {held : Text.Bytes} (h : t.IsOpenAt cwd p place n held)
    (more : Text.Bytes) : ∃ v, t.appendTo n more = .ok v ∧
      v.IsOpenAt cwd p place n (held ++ more) ∧ t.DiffersAt v place := by
  have hplace : place ≠ [] := ne_nil_of_content? (by rw [h.holds]; nofun)
  have hnode : (t.nodes.find? n).map Node.content = some (.file held) := by
    rw [← h.holds, content?, node?_of_ne_nil hplace, ← number?_of_ne_nil hplace, h.number]
    rfl
  obtain ⟨hdiffers, hcontent⟩ := differsAt_modifyNode h.holds h.number (held ++ more) t.now
  rw [FileTree.appendTo, hnode]
  refine ⟨_, rfl, ⟨hdiffers.growsTo.isDirectory h.parent, hdiffers.growsTo.locate h.leads, ?_,
    hcontent⟩, hdiffers⟩
  rw [number?_modifyNode, h.number]

end FileTree

end RevisionGraph
