import RevisionGraph.Proofs.Files.Growth
import RevisionGraph.Publisher.Basic

/-!
# What is written through a handle

Bytes that are given to an open file are in the file afterwards, or they wait, or they are lost.  An
attempt that fails does not undo what was done before it, and bytes that wait are written by a later
attempt, whatever was said of them in the meantime.

* **Attempts.**  `Disk.append_of_next?` and `exists_append`: what becomes of one attempt, and
  `Handle.flush_cases` of writing out what waits.
* **Writing.**  `Handle.Writes` tells what was written and what waits then; by `Handle.write_spec`
  that is what any writing comes to.
* **Closing.**  By `Handle.close_of_pending_eq_nil` and `Handle.close_of_pending_ne_nil` it does
  nothing to the files, or writes what waits or fails.
-/

set_option autoImplicit false

namespace RevisionGraph

variable {d : Disk} {h : Handle} {cwd place : Place} {p : Path} {held : Text.Bytes} {n : Nat}
  {cause : FileCause}

/-! ## Attempts -/

theorem Disk.append_of_next? (hnext : d.next? = some cause) (n : Nat) (bytes : Text.Bytes) :
    d.append n bytes = ({ d with obstacles := d.obstacles.tail }, some cause) := by
  rw [append, hnext]

/-- Where nothing is in the way the bytes come last in the file. -/
theorem Disk.exists_append (hopen : d.files.IsOpenAt cwd p place n held) (hnext : d.next? = none)
    (bytes : Text.Bytes) : ∃ v,
      d.append n bytes = ({ d with obstacles := d.obstacles.tail, files := v }, none) ∧
        v.IsOpenAt cwd p place n (held ++ bytes) ∧ d.files.DiffersAt v place := by
  obtain ⟨v, happend, hopen', hdiffers⟩ := hopen.appendTo bytes
  refine ⟨v, ?_, hopen', hdiffers⟩
  rw [append, hnext]
  simp only [happend]

theorem Weather.next?_of_obstacles_eq_nil {w : Weather} (hnil : w.obstacles = []) :
    w.next? = none := by
  rw [next?, hnil]
  rfl

namespace Handle

theorem flush_of_pending_eq_nil (hnil : h.pending = []) (d : Disk) : h.flush d = (h, d, none) := by
  rw [flush, hnil]
  rfl

theorem flush_of_next? (hne : h.pending ≠ []) (hnext : d.next? = some cause) :
    h.flush d = (h, { d with obstacles := d.obstacles.tail }, some cause) := by
  rw [flush, List.isEmpty_eq_false_iff.mpr hne, Disk.append_of_next? hnext]
  rfl

theorem exists_flush (hopen : d.files.IsOpenAt cwd p place h.number held) (hne : h.pending ≠ [])
    (hnext : d.next? = none) : ∃ v,
      h.flush d = ({ h with pending := [] },
        { d with obstacles := d.obstacles.tail, files := v }, none) ∧
      v.IsOpenAt cwd p place h.number (held ++ h.pending) ∧ d.files.DiffersAt v place := by
  obtain ⟨v, happend, hopen', hdiffers⟩ := d.exists_append hopen hnext h.pending
  refine ⟨v, ?_, hopen', hdiffers⟩
  rw [flush, List.isEmpty_eq_false_iff.mpr hne, happend]
  rfl

/-- What waits is written, or goes on waiting. -/
theorem flush_cases (hopen : d.files.IsOpenAt cwd p place h.number held) :
    h.pending = [] ∧ h.flush d = (h, d, none) ∨
    (h.pending ≠ [] ∧ ∃ cause, d.next? = some cause ∧
      h.flush d = (h, { d with obstacles := d.obstacles.tail }, some cause)) ∨
    (h.pending ≠ [] ∧ d.next? = none ∧ ∃ v,
      h.flush d = ({ h with pending := [] },
        { d with obstacles := d.obstacles.tail, files := v }, none) ∧
      v.IsOpenAt cwd p place h.number (held ++ h.pending) ∧ d.files.DiffersAt v place) := by
  by_cases hnil : h.pending = []
  · exact .inl ⟨hnil, flush_of_pending_eq_nil hnil d⟩
  cases hnext : d.next? with
  | some cause => exact .inr (.inl ⟨hnil, cause, rfl, flush_of_next? hnil hnext⟩)
  | none => exact .inr (.inr ⟨hnil, rfl, exists_flush hopen hnil hnext⟩)

/-! ## Writing -/

/-- Through the handle of an open file `written` was written, when `given` was to be.  Of the bytes
that waited and of these nothing is left out but what was given, and that only if something failed:
the rest waits. -/
structure Writes (h : Handle) (d : Disk) (cwd : Place) (p : Path) (place : Place)
    (held given written : Text.Bytes) (o : Outcome) : Prop where
  isOpenAt : o.2.1.files.IsOpenAt cwd p place h.number (held ++ written)
  differsAt : d.files.DiffersAt o.2.1.files place
  handle_eq : o.1 = { h with pending := o.1.pending }
  of_none : o.2.2 = none → written = h.pending ++ given ∧ o.1.pending = []
  of_some : o.2.2 ≠ none → (written = [] ∨ written = h.pending) ∧
    ∃ kept, (kept = [] ∨ kept = given) ∧ written ++ o.1.pending = h.pending ++ kept
  /-- without obstacles nothing fails -/
  eq_none : d.obstacles = [] → o.2.2 = none
  files_eq : written = [] → o.2.1.files = d.files

section

variable {given : Text.Bytes}

/-- There was nothing to write. -/
theorem Writes.idle (hopen : d.files.IsOpenAt cwd p place h.number held)
    (hnil : h.pending ++ given = []) :
    h.Writes d cwd p place held given [] ({ h with pending := [] }, d, none) :=
  ⟨by rwa [List.append_nil], .refl _ _, rfl, fun _ ↦ ⟨hnil.symm, rfl⟩, fun hne ↦ absurd rfl hne,
    fun _ ↦ rfl, fun _ ↦ rfl⟩

/-- The first attempt failed; what was given waits, or is lost. -/
theorem Writes.refused (given : Text.Bytes) {kept : Text.Bytes}
    (hopen : d.files.IsOpenAt cwd p place h.number held) (hnext : d.next? = some cause)
    (hkept : kept = [] ∨ kept = given) :
    h.Writes d cwd p place held given [] ({ h with pending := h.pending ++ kept },
      { d with obstacles := d.obstacles.tail }, some cause) := by
  refine ⟨by rwa [List.append_nil], .refl _ _, rfl, nofun, fun _ ↦ ⟨.inl rfl, kept, hkept, rfl⟩,
    fun hclear ↦ ?_, fun _ ↦ rfl⟩
  rw [Weather.next?_of_obstacles_eq_nil hclear] at hnext
  cases hnext

/-- All that was to be written was, and it was not nothing. -/
theorem Writes.done {e : Disk} (hne : h.pending ++ given ≠ [])
    (hopen : e.files.IsOpenAt cwd p place h.number (held ++ (h.pending ++ given)))
    (hdiffers : d.files.DiffersAt e.files place) :
    h.Writes d cwd p place held given (h.pending ++ given)
      ({ h with pending := [] }, e, none) :=
  ⟨hopen, hdiffers, rfl, fun _ ↦ ⟨rfl, rfl⟩, fun h ↦ absurd rfl h, fun _ ↦ rfl,
    fun hnil ↦ absurd hnil hne⟩

end

/-- Bytes that come to wait behind others are written with them, and wait if that fails. -/
theorem writes_flush (hopen : d.files.IsOpenAt cwd p place h.number held) (bytes : Text.Bytes) :
    ∃ written, h.Writes d cwd p place held bytes written
        ({ h with pending := h.pending ++ bytes }.flush d) ∧
      (h.pending ≠ [] → (written = [] ↔ d.next? ≠ none)) := by
  have hopen' : d.files.IsOpenAt cwd p place { h with pending := h.pending ++ bytes }.number held :=
    hopen
  rcases flush_cases hopen' with ⟨hnil, hflush⟩ | ⟨-, cause, hnext, hflush⟩ |
    ⟨hne, hnext, v, hflush, hwritten, hdiffers⟩
  · have hempty : h.pending ++ bytes = [] := hnil
    rw [hflush, hempty]
    exact ⟨[], .idle hopen hempty, fun hne ↦ absurd (List.append_eq_nil_iff.mp hempty).1 hne⟩
  · rw [hflush]
    exact ⟨[], .refused bytes hopen hnext (.inr rfl), fun _ ↦ by simp [hnext]⟩
  · rw [hflush]
    exact ⟨_, .done hne hwritten hdiffers, fun _ ↦ by simpa [hnext] using hne⟩

/-- Bytes that are given to an empty buffer. -/
theorem writes_fill (hopen : d.files.IsOpenAt cwd p place h.number held) (hnil : h.pending = [])
    (bytes : Text.Bytes) : ∃ written,
      h.Writes d cwd p place held bytes written ((h.fill d bytes).andThen flush) := by
  have hsame : { h with pending := [] } = h := by rw [← hnil]
  have hgiven : h.pending ++ bytes = bytes := by rw [hnil, List.nil_append]
  rw [fill]
  split
  · obtain ⟨written, hwrites, -⟩ := writes_flush hopen bytes
    rw [hgiven] at hwrites
    exact ⟨written, hwrites⟩
  next hroom =>
  cases hnext : d.next? with
  | some cause =>
    have hwrites := Writes.refused bytes hopen hnext (.inl rfl)
    rw [List.append_nil, hnil, hsame] at hwrites
    rw [Disk.append_of_next? hnext]
    exact ⟨[], hwrites⟩
  | none =>
    obtain ⟨v, happend, hwritten, hdiffers⟩ := d.exists_append hopen hnext bytes
    have hne : h.pending ++ bytes ≠ [] := by
      rintro hempty
      rw [hgiven] at hempty
      exact hroom (by simp [hempty])
    rw [← hgiven] at hwritten
    simp only [happend, Outcome.andThen, flush_of_pending_eq_nil hnil]
    have hwrites := Writes.done (e := { d with obstacles := d.obstacles.tail, files := v })
      hne hwritten hdiffers
    rw [hsame] at hwrites
    exact ⟨_, hwrites⟩

/-- **Whatever is in the way**, what waited and what is given is written, waits or is lost as
`Writes` says; and if something waits, what happens to the first attempt tells whether anything is
written. -/
theorem write_spec (hopen : d.files.IsOpenAt cwd p place h.number held) (bytes : Text.Bytes) :
    ∃ written, h.Writes d cwd p place held bytes written (h.write d bytes) ∧
      (h.pending ≠ [] → (written = [] ↔ d.next? ≠ none)) := by
  rw [write, take]
  split
  · exact writes_flush hopen bytes
  rcases flush_cases hopen with ⟨hnil, hflush⟩ | ⟨hne, cause, hnext, hflush⟩ |
    ⟨hne, hnext, v, hflush, hwritten, hdiffers⟩
  · obtain ⟨written, hwrites⟩ := writes_fill hopen hnil bytes
    rw [hflush]
    exact ⟨written, hwrites, fun hne ↦ absurd hnil hne⟩
  · have hwrites := Writes.refused bytes hopen hnext (.inl rfl)
    rw [List.append_nil] at hwrites
    rw [hflush]
    exact ⟨[], hwrites, fun _ ↦ by simp [hnext]⟩
  · -- what waited is written, and the bytes find an empty buffer
    obtain ⟨written, hwrites⟩ := writes_fill (h := { h with pending := [] })
      (d := { d with obstacles := d.obstacles.tail, files := v }) hwritten rfl bytes
    rw [hflush]
    refine ⟨h.pending ++ written, ⟨?_, hdiffers.trans hwrites.differsAt, hwrites.handle_eq,
      fun hdone ↦ ?_, fun hfailed ↦ ?_, fun hclear ↦ hwrites.eq_none ?_, fun hnil ↦ ?_⟩, fun _ ↦ ?_⟩
    · rw [← List.append_assoc]
      exact hwrites.isOpenAt
    · obtain ⟨rfl, hpending⟩ := hwrites.of_none hdone
      exact ⟨rfl, hpending⟩
    · obtain ⟨hnone, kept, hkept, hrest⟩ := hwrites.of_some hfailed
      obtain rfl : written = [] := hnone.elim id id
      refine ⟨.inr (List.append_nil _), kept, hkept, ?_⟩
      rw [List.append_nil]
      exact congrArg (h.pending ++ ·) hrest
    · simp [hclear]
    · exact absurd (List.append_eq_nil_iff.mp hnil).1 hne
    · simp [hnext, hne]

/-! ## Closing -/

/-- Where nothing waits, closing does nothing to the files. -/
theorem close_of_pending_eq_nil (hnil : h.pending = []) (d : Disk) :
    ∃ h', h.close d = (h', d, none) := by
  rw [close]
  split
  · exact ⟨h, rfl⟩
  · simp only [flush_of_pending_eq_nil hnil, Option.or_none]
    exact ⟨_, rfl⟩

/-- Where something waits, closing writes it at the first attempt, or fails. -/
theorem close_of_pending_ne_nil (hne : h.pending ≠ []) (hh : h.closed = false)
    (hopen : d.files.IsOpenAt cwd p place h.number held) :
    (d.next? = none → ∃ h' d', h.close d = (h', d', none) ∧
      d'.files.IsOpenAt cwd p place h.number (held ++ h.pending)) ∧
    (d.next? ≠ none → (h.close d).2.2 ≠ none) := by
  rw [close, hh]
  rcases flush_cases hopen with ⟨hnil, -⟩ | ⟨-, cause, hnext, hflush⟩ |
    ⟨-, hnext, v, hflush, hwritten, -⟩
  · exact absurd hnil hne
  · rw [hflush, hnext]
    refine ⟨nofun, fun _ ↦ ?_⟩
    cases hsecond : (h.flush { d with obstacles := d.obstacles.tail }).2.2 <;> simp [hsecond]
  · rw [hflush, hnext]
    refine ⟨fun _ ↦ ?_, fun h ↦ absurd rfl h⟩
    simp only [Bool.false_eq_true, if_false]
    rw [flush_of_pending_eq_nil rfl]
    exact ⟨_, _, rfl, hwritten⟩

end Handle

end RevisionGraph
