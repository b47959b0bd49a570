import Mathlib.Data.List.TakeWhile
import RevisionGraph.Proofs.Json.RoundTrip

/-!
# Numbers that are too long to be read

A reader of JSON stops for one of two reasons: the text is malformed, or an integer in it has more
digits than `Text.digitLimit`.  `tooManyDigits_of_read` says that the second reason is never given
without cause: somewhere in the text there stand as many digits in a row.

Every reader takes characters off the front of what is left.  `ReadsWithin` is what it says of them:
what is left over is an end of them, and a run of digits that stops the reader is part of them.  It
goes through the readers of nested values by induction on their bound, `areReadWithin`.
`read_of_tooManyDigits` is the other direction for a document that is one integer.
-/

set_option autoImplicit false

namespace RevisionGraph.Json

/-! ## Readers that take characters off the front -/

/-- There are `n` digits in a row. -/
def HasDigits (n : Nat) (cs : List Char) : Prop :=
  ∃ digits, digits <:+: cs ∧ digits.length = n ∧ ∀ c ∈ digits, c.isDigit = true

/-- What is left over is an end of the characters, and a number that stops the reader is among
them. -/
structure ReadsWithin {α : Type} (cs : List Char) (x : Reading α) : Prop where
  suffix : ∀ {a rest}, x = .ok (a, rest) → rest <:+ cs
  tooManyDigits : ∀ {n}, x = .error (.tooManyDigits n) → Text.digitLimit < n ∧ HasDigits n cs

section

variable {α β : Type} {cs front rest : List Char}

theorem ReadsWithin.ok (a : α) (h : rest <:+ cs) : ReadsWithin cs (.ok (a, rest)) := by
  refine ⟨fun heq ↦ ?_, by rintro _ ⟨⟩⟩
  cases heq
  exact h

theorem ReadsWithin.malformed (defect : Defect) (left : Nat) :
    ReadsWithin cs (.error (.malformed defect left) : Reading α) :=
  ⟨by rintro _ _ ⟨⟩, by rintro _ ⟨⟩⟩

/-- A number that stopped the reader of an end stops the whole. -/
theorem ReadsWithin.stop {x : Reading α} {stop : Stop} (h : ReadsWithin rest x)
    (hx : x = .error stop) (hrest : rest <:+ cs) :
    ReadsWithin cs (.error stop : Reading β) := by
  refine ⟨by rintro _ _ ⟨⟩, fun heq ↦ ?_⟩
  cases heq
  obtain ⟨hlong, digits, hdigits, hlength, hall⟩ := h.tooManyDigits hx
  exact ⟨hlong, digits, hdigits.trans hrest.isInfix, hlength, hall⟩

/-- Reading an end is reading the whole. -/
theorem ReadsWithin.mono {x : Reading α} (h : ReadsWithin rest x) (hrest : rest <:+ cs) :
    ReadsWithin cs x := by
  cases x with
  | ok r => exact .ok r.1 ((h.suffix rfl).trans hrest)
  | error stop => exact h.stop rfl hrest

end

/-! ## Tokens -/

theorem skipSpace_suffix (cs : List Char) : skipSpace cs <:+ cs := List.dropWhile_suffix _

theorem skipSpace_cons_suffix {cs after : List Char} {c : Char} (h : skipSpace cs = c :: after) :
    after <:+ cs :=
  (List.suffix_cons c after).trans (h ▸ skipSpace_suffix cs)

theorem readUnits_readsWithin (opening : Nat) (cs : List Char) :
    ReadsWithin cs (readUnits opening cs) := by
  fun_induction readUnits opening cs with
  | case3 a b c d e rest _ _ us after h ih =>
    exact .ok _ ((ih.suffix h).trans (List.suffix_append ['\\', 'u', a, b, c, d] _))
  | case4 a b c d e rest _ _ stop h ih =>
    exact ih.stop h (List.suffix_append ['\\', 'u', a, b, c, d] _)
  | case7 c rest _ _ _ _ us after h ih =>
    exact .ok _ ((ih.suffix h).trans (List.suffix_append ['\\', c] _))
  | case8 c rest _ _ _ _ stop h ih => exact ih.stop h (List.suffix_append ['\\', c] _)
  | case9 rest => exact .ok _ (List.suffix_cons _ _)
  | case12 c rest _ _ _ _ _ us after h ih =>
    exact .ok _ ((ih.suffix h).trans (List.suffix_cons _ _))
  | case13 c rest _ _ _ _ _ stop h ih => exact ih.stop h (List.suffix_cons _ _)
  | _ => exact .malformed _ _

theorem readText_readsWithin (cs : List Char) : ReadsWithin cs (readText cs) := by
  have h := readUnits_readsWithin (cs.length + 1) cs
  rw [readText]
  split
  · next us rest hunits => exact .ok _ (h.suffix hunits)
  · next stop hunits => exact h.stop hunits (List.suffix_refl cs)

theorem readWord?_suffix {cs rest : List Char} {v : Json} (h : readWord? cs = some (v, rest)) :
    rest <:+ cs := by
  obtain ⟨w, -, hw⟩ := List.exists_of_findSome?_eq_some h
  obtain ⟨after, hafter, hv⟩ := Option.map_eq_some_iff.mp hw
  cases hv
  rw [stripWord?] at hafter
  split at hafter <;> cases hafter
  exact List.drop_suffix _ cs

/-! ## Numbers -/

/-- The digits before the point stand in front of what follows them. -/
theorem takeWhole_eq_some {cs whole rest : List Char} (h : takeWhole cs = some (whole, rest)) :
    whole ++ rest = cs ∧ ∀ c ∈ whole, c.isDigit = true := by
  rw [takeWhole.eq_def] at h
  split at h
  · cases h
  next c tail =>
  split at h
  · next hzero =>
    cases h
    exact ⟨by rw [hzero]; rfl, by simp⟩
  split at h <;> cases h
  next hdigit =>
  refine ⟨by rw [List.cons_append, List.takeWhile_append_dropWhile], ?_⟩
  rw [List.forall_mem_cons]
  exact ⟨hdigit, fun c hc ↦ List.mem_takeWhile_imp hc⟩

theorem takeFraction_suffix (cs : List Char) : (takeFraction cs).2 <:+ cs := by
  rw [takeFraction.eq_def]
  split
  · next rest =>
    simp only
    split
    · exact List.suffix_refl _
    · exact (List.dropWhile_suffix _).trans (List.suffix_cons _ _)
  · exact List.suffix_refl _

theorem takeExponent_suffix (cs : List Char) : (takeExponent cs).2 <:+ cs := by
  rw [takeExponent.eq_def]
  split
  · next e rest =>
    have hdigits : ∀ {body : List Char}, body <:+ rest →
        body.dropWhile Char.isDigit <:+ e :: rest := fun h ↦
      ((List.dropWhile_suffix _).trans h).trans (List.suffix_cons e rest)
    simp only
    split
    · -- the exponent may have a minus, a plus or no sign
      split
      all_goals simp only; split
      · exact List.suffix_refl _
      · exact hdigits (List.suffix_cons _ _)
      · exact List.suffix_refl _
      · exact hdigits (List.suffix_cons _ _)
      · exact List.suffix_refl _
      · exact hdigits (List.suffix_refl _)
    · exact List.suffix_refl _
  · exact List.suffix_refl _

theorem readNumber_readsWithin (start : Nat) (negative : Bool) (cs : List Char) :
    ReadsWithin cs (readNumber start negative cs) := by
  rw [readNumber]
  split
  · exact .malformed _ _
  next whole rest hwhole =>
  obtain ⟨hcs, hdigits⟩ := takeWhole_eq_some hwhole
  have hrest : rest <:+ cs := hcs ▸ List.suffix_append whole rest
  have hafter : (takeExponent (takeFraction rest).2).2 <:+ cs :=
    ((takeExponent_suffix _).trans (takeFraction_suffix _)).trans hrest
  simp only
  split
  · split
    · next hlong =>
      refine ⟨by rintro _ _ ⟨⟩, fun heq ↦ ?_⟩
      cases heq
      exact ⟨hlong, whole, (hcs ▸ List.prefix_append whole rest).isInfix, rfl, hdigits⟩
    · exact .ok _ hafter
  · exact .ok _ hafter

/-! ## Nested values -/

/-- With this bound the readers of nested values take characters off the front. -/
structure AreReadWithin (bound : Nat) : Prop where
  value : ∀ cs, ReadsWithin cs (readValue bound cs)
  items : ∀ cs, ReadsWithin cs (readItems bound cs)
  members : ∀ cs, ReadsWithin cs (readMembers bound cs)

section

variable {bound : Nat}

theorem AreReadWithin.readValue (h : AreReadWithin bound) (cs : List Char) :
    ReadsWithin cs (readValue (bound + 1) cs) := by
  rcases cs with _ | ⟨c, rest⟩
  · exact .malformed _ _
  have hrest : rest <:+ c :: rest := List.suffix_cons c rest
  -- what is left after each stage is a suffix of what the stage was given
  rw [Json.readValue]
  by_cases hquote : c = Text.doubleQuote
  · have htext := readText_readsWithin rest
    rw [if_pos hquote]
    split
    · next hs => exact .ok _ ((htext.suffix hs).trans hrest)
    · next hs => exact htext.stop hs hrest
  rw [if_neg hquote]
  by_cases hopen : c = '['
  · rw [if_pos hopen]
    split
    · next hclose => exact .ok _ ((skipSpace_cons_suffix hclose).trans hrest)
    · have hitems := (h.items (skipSpace rest)).mono ((skipSpace_suffix rest).trans hrest)
      split
      · next hs => exact .ok _ (hitems.suffix hs)
      · next hs => exact hitems.stop hs (List.suffix_refl _)
  rw [if_neg hopen]
  by_cases hbrace : c = '\x7b'
  · rw [if_pos hbrace]
    split
    · next hclose => exact .ok _ ((skipSpace_cons_suffix hclose).trans hrest)
    · have hmembers := (h.members (skipSpace rest)).mono ((skipSpace_suffix rest).trans hrest)
      split
      · next hs => exact .ok _ (hmembers.suffix hs)
      · next hs => exact hmembers.stop hs (List.suffix_refl _)
  rw [if_neg hbrace]
  split
  · next found hword => exact .ok found.1 (readWord?_suffix hword)
  · split
    · exact (readNumber_readsWithin _ _ _).mono hrest
    · exact readNumber_readsWithin _ _ _

theorem AreReadWithin.readItems (h : AreReadWithin bound) (cs : List Char) :
    ReadsWithin cs (readItems (bound + 1) cs) := by
  rw [Json.readItems]
  split
  · next hitem => exact (h.value cs).stop hitem (List.suffix_refl cs)
  next item rest hitem =>
  have hrest : rest <:+ cs := (h.value cs).suffix hitem
  split
  · next hclose => exact .ok _ ((skipSpace_cons_suffix hclose).trans hrest)
  · next more hcomma =>
    have hmore := (skipSpace_suffix more).trans ((skipSpace_cons_suffix hcomma).trans hrest)
    have hitems := (h.items (skipSpace more)).mono hmore
    split
    · next hs => exact .ok _ (hitems.suffix hs)
    · next hs => exact hitems.stop hs (List.suffix_refl cs)
  · exact .malformed _ _

theorem AreReadWithin.readMembers (h : AreReadWithin bound) (cs : List Char) :
    ReadsWithin cs (readMembers (bound + 1) cs) := by
  rcases cs with _ | ⟨c, rest⟩
  · exact .malformed _ _
  have htext := (readText_readsWithin rest).mono (List.suffix_cons c rest)
  rw [Json.readMembers]
  split
  · split
    · next hkey => exact htext.stop hkey (List.suffix_refl _)
    next key after hkey =>
    have hafter := htext.suffix hkey
    split
    · next more hcolon =>
      have hmore := (skipSpace_suffix more).trans ((skipSpace_cons_suffix hcolon).trans hafter)
      have hvalue := (h.value (skipSpace more)).mono hmore
      split
      · next hs => exact hvalue.stop hs (List.suffix_refl _)
      next value after hs =>
      have hafter := hvalue.suffix hs
      split
      · next hclose => exact .ok _ ((skipSpace_cons_suffix hclose).trans hafter)
      · next more hcomma =>
        have hmore := (skipSpace_suffix more).trans ((skipSpace_cons_suffix hcomma).trans hafter)
        have hmembers := (h.members (skipSpace more)).mono hmore
        split
        · next hs => exact .ok _ (hmembers.suffix hs)
        · next hs => exact hmembers.stop hs (List.suffix_refl _)
      · exact .malformed _ _
    · exact .malformed _ _
  · exact .malformed _ _

end

theorem areReadWithin (bound : Nat) : AreReadWithin bound := by
  induction bound with
  | zero => exact ⟨fun _ ↦ .malformed _ _, fun _ ↦ .malformed _ _, fun _ ↦ .malformed _ _⟩
  | succ bound ih => exact ⟨ih.readValue, ih.readItems, ih.readMembers⟩

/-! ## Documents -/

/-- A document that is read starts with no byte order mark. -/
theorem readUnmarked_of_read {s : String} {v : Json} (h : read s = .ok v) :
    readUnmarked s = .ok v := by
  rw [read] at h
  split at h
  · cases h
  · exact h

theorem tooManyDigits_of_readChars {cs : List Char} {n : Nat}
    (h : readChars cs = .error (.tooManyDigits n)) : Text.digitLimit < n ∧ HasDigits n cs := by
  rw [readChars] at h
  split at h
  · next hvalue =>
    cases h
    have hwithin := (areReadWithin (2 * cs.length + 2)).value (skipSpace cs)
    exact (hwithin.mono (skipSpace_suffix cs)).tooManyDigits hvalue
  · split at h <;> cases h

theorem tooManyDigits_of_readUnmarked {s : String} {n : Nat}
    (h : readUnmarked s = .error (.tooManyDigits n)) :
    Text.digitLimit < n ∧ HasDigits n s.toList := by
  rw [readUnmarked] at h
  split at h
  · cases h
  next stop hstop =>
  cases stop with
  | malformed defect left => cases h
  | tooManyDigits m =>
    cases h
    exact tooManyDigits_of_readChars hstop

/-- **A document is too long only where it is**: as many digits as are reported stand in its text in
a row, and they are too many to be read. -/
theorem tooManyDigits_of_read {s : String} {n : Nat} (h : read s = .error (.tooManyDigits n)) :
    Text.digitLimit < n ∧ HasDigits n s.toList := by
  rw [read] at h
  split at h
  · cases h
  · exact tooManyDigits_of_readUnmarked h

/-- **An integer that is too long is not read**, alone in its text. -/
theorem read_of_tooManyDigits {d : Char} {ds : List Char}
    (hdigits : ∀ c ∈ d :: ds, c.isDigit = true) (hzero : d ≠ '0')
    (hlong : Text.digitLimit < ds.length + 1) :
    read (String.ofList (d :: ds)) = .error (.tooManyDigits (ds.length + 1)) := by
  obtain ⟨hd, hds⟩ := List.forall_mem_cons.mp hdigits
  have hwhole : takeWhole (d :: ds) = some (d :: ds, []) := by
    rw [takeWhole, if_neg hzero, if_pos hd, List.takeWhile_eq_self_iff.mpr hds,
      List.dropWhile_eq_nil_iff.mpr hds]
  -- the digits are counted before anything is made of them, or read behind them
  have hnumber (start : Nat) :
      readNumber start false (d :: ds) = .error (.tooManyDigits (ds.length + 1)) := by
    rw [readNumber, hwhole]
    exact if_pos hlong
  have hvalue (bound : Nat) :
      readValue (bound + 1) (d :: ds) = .error (.tooManyDigits (ds.length + 1)) := by
    rw [readValue_scalar (not_mem_of_isDigit hd (by decide)),
      readWord?_eq_none (not_mem_of_isDigit hd (by decide))]
    simp only [if_neg (ne_of_isDigit hd (d := '-') (by decide))]
    exact hnumber _
  have hspace : isSpace d = false := by
    rw [isSpace]
    simp [ne_of_isDigit hd]
  have hchars : readChars (d :: ds) = .error (.tooManyDigits (ds.length + 1)) := by
    rw [readChars, skipSpace_cons hspace, hvalue]
  rw [read, String.toList_ofList]
  split
  · next hmark =>
    cases hmark
    exact absurd hd (by decide)
  · rw [readUnmarked, String.toList_ofList, hchars]
    rfl

end RevisionGraph.Json
