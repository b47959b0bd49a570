import RevisionGraph.Proofs.Json.Contents
import RevisionGraph.Proofs.Text.Decimal

/-!
# Reading what was written

`read_write` says that a document is read back from its text.  Three conditions are needed, and
each of them excludes a value whose text stands for another one or for none: floats are written in
their shortest digits, integers beyond the digit limit are not read, and of a repeated key only the
last value is kept.

* **Texts.**  `readText_writeText`: every character is read back from its escape or from itself, and
  no character is half of a surrogate pair.
* **Integers.**  `readNumber_toDigits`: the digits are read up to a character that ends a number,
  which is what follows a value in every array and object.
* **Nesting.**  `ReadsBack sp v` is the statement that goes through the induction: whatever follows,
  and for every bound on the steps that is at least the length of the text.  `readsBack_array` and
  `readsBack_object` are its cases for nested values.

The spacing may be any one that `Spacing.IsReadable` allows, the compact and the spaced one among
them.
-/

set_option autoImplicit false

namespace RevisionGraph.Json

/-! ## Texts -/

theorem hexValue?_hexDigit : ∀ n < 16, Text.hexValue? (Text.hexDigit n) = some n := by decide

theorem hexDigits_four (n : Nat) : Text.hexDigits 4 n =
    [Text.hexDigit (n / 16 / 16 / 16 % 16), Text.hexDigit (n / 16 / 16 % 16),
      Text.hexDigit (n / 16 % 16), Text.hexDigit (n % 16)] := by
  simp [Text.hexDigits]

theorem readCode?_hexDigits {n : Nat} (h : n < 0x10000) :
    readCode? (Text.hexDigit (n / 16 / 16 / 16 % 16)) (Text.hexDigit (n / 16 / 16 % 16))
      (Text.hexDigit (n / 16 % 16)) (Text.hexDigit (n % 16)) = some n := by
  have hdigit : ∀ k, Text.hexValue? (Text.hexDigit (k % 16)) = some (k % 16) :=
    fun k ↦ hexValue?_hexDigit _ (Nat.mod_lt _ (by decide))
  simp only [readCode?, hdigit, bind, Option.bind, pure]
  congr 1
  omega

section

variable {opening : Nat} {cs rest : List Char} {us : List Nat}

theorem readUnits_shortEscape {e x : Char} (he : e ≠ 'u') (hx : shortEscape? e = some x)
    (h : readUnits opening cs = .ok (us, rest)) :
    readUnits opening ('\\' :: e :: cs) = .ok (x.toNat :: us, rest) := by
  rw [readUnits.eq_3 _ _ _ fun a b c d f tail hu _ ↦ he hu, if_neg he, hx]
  simp only [h]

theorem readUnits_plain {c : Char} (hquote : c ≠ Text.doubleQuote) (hslash : c ≠ '\\')
    (hcontrol : ¬ c.toNat < 0x20) (h : readUnits opening cs = .ok (us, rest)) :
    readUnits opening (c :: cs) = .ok (c.toNat :: us, rest) := by
  rw [readUnits, if_neg hquote, if_neg hslash, if_neg hcontrol, h]
  · exact fun a b c d e tail hc _ ↦ hslash hc
  · exact fun e tail hc _ ↦ hslash hc

/-- A code is read when a character follows it. -/
theorem readUnits_code {n : Nat} (hn : n < 0x10000) (hcs : cs ≠ [])
    (h : readUnits opening cs = .ok (us, rest)) :
    readUnits opening ('\\' :: 'u' :: Text.hexDigits 4 n ++ cs) = .ok (n :: us, rest) := by
  obtain ⟨d, tail, rfl⟩ := List.exists_cons_of_ne_nil hcs
  rw [hexDigits_four]
  simp only [List.cons_append, List.nil_append]
  rw [readUnits, readCode?_hexDigits hn]
  simp only [h]

/-- A character is read back from its escape, or from itself. -/
theorem readUnits_escapeChar (c : Char) (hcs : cs ≠ [])
    (h : readUnits opening cs = .ok (us, rest)) :
    readUnits opening (escapeChar c ++ cs) = .ok (c.toNat :: us, rest) := by
  rw [escapeChar]
  split_ifs with hself hline hreturn htab hback hfeed hcontrol
  · rw [Bool.or_eq_true, beq_iff_eq, beq_iff_eq] at hself
    rcases hself with rfl | rfl
    · exact readUnits_shortEscape (by decide) (by decide) h
    · exact readUnits_shortEscape (by decide) (by decide) h
  · rw [beq_iff_eq] at hline
    exact hline ▸ readUnits_shortEscape (x := '\n') (by decide) (by decide) h
  · rw [beq_iff_eq] at hreturn
    exact hreturn ▸ readUnits_shortEscape (x := '\r') (by decide) (by decide) h
  · rw [beq_iff_eq] at htab
    exact htab ▸ readUnits_shortEscape (x := '\t') (by decide) (by decide) h
  · rw [beq_iff_eq] at hback
    exact hback ▸ readUnits_shortEscape (x := '\x08') (by decide) (by decide) h
  · rw [beq_iff_eq] at hfeed
    exact hfeed ▸ readUnits_shortEscape (x := '\x0c') (by decide) (by decide) h
  · exact readUnits_code (by omega) hcs h
  · rw [Bool.or_eq_true, beq_iff_eq, beq_iff_eq, not_or] at hself
    exact readUnits_plain hself.1 hself.2 hcontrol h

theorem readUnits_quote : readUnits opening (Text.doubleQuote :: cs) = .ok ([], cs) := by
  simp [readUnits, Text.doubleQuote]

theorem readUnits_writeText (s : List Char) :
    readUnits opening (s.flatMap escapeChar ++ Text.doubleQuote :: cs) =
      .ok (s.map Char.toNat, cs) := by
  induction s with
  | nil => exact readUnits_quote
  | cons c s ih =>
    rw [List.flatMap_cons, List.append_assoc]
    exact readUnits_escapeChar c (by simp) ih

end

theorem not_surrogate (c : Char) : ¬ (0xd800 ≤ c.toNat ∧ c.toNat ≤ 0xdfff) := by
  rcases c.valid with h | h
  · exact fun hc ↦ absurd h (by simp only [Char.toNat] at hc; omega)
  · exact fun hc ↦ absurd h.1 (by simp only [Char.toNat] at hc; omega)

/-- No character is half of a surrogate pair, so none is joined to the next one. -/
theorem joinUnits_toNat (cs : List Char) : joinUnits (cs.map Char.toNat) = cs := by
  induction cs with
  | nil => rfl
  | cons c cs ih =>
    have hc := not_surrogate c
    have hchar : (if 0xd800 ≤ c.toNat && c.toNat ≤ 0xdfff then '\ufffd' else Char.ofNat c.toNat) =
        c := by
      rw [if_neg (by simpa using hc), Char.ofNat_toNat]
    cases cs with
    | nil => rw [List.map_cons, List.map_nil, joinUnits, hchar]
    | cons d cs =>
      rw [List.map_cons, List.map_cons, joinUnits, if_neg, hchar, ← List.map_cons, ih]
      simp only [Bool.and_eq_true, decide_eq_true_eq]
      omega

/-- **A text is read back from its quoted form**, up to the closing quote. -/
theorem readText_writeText (s : String) (rest : List Char) :
    readText (s.toList.flatMap escapeChar ++ Text.doubleQuote :: rest) = .ok (s, rest) := by
  rw [readText, readUnits_writeText]
  simp only [joinUnits_toNat, String.ofList_toList]

theorem writeText_append (s : String) (rest : List Char) : writeText s ++ rest =
    Text.doubleQuote :: (s.toList.flatMap escapeChar ++ Text.doubleQuote :: rest) := by
  simp [writeText]

/-! ## Integers -/

/-- What follows does not go on with a number. -/
def EndsNumber (rest : List Char) : Prop :=
  ∀ c ∈ rest.head?, c.isDigit = false ∧ c ≠ '.' ∧ c ≠ 'e' ∧ c ≠ 'E'

theorem takeWhole_toDigits (n : Nat) {rest : List Char} (hrest : EndsNumber rest) :
    takeWhole (Nat.toDigits 10 n ++ rest) = some (Nat.toDigits 10 n, rest) := by
  have hall : ∀ c ∈ Nat.toDigits 10 n, c.isDigit = true := fun c hc ↦
    Nat.isDigit_of_mem_toDigits (by decide) (by decide) hc
  rcases Nat.eq_zero_or_pos n with rfl | hn
  · rfl
  · obtain ⟨d, ds, hd⟩ := List.exists_cons_of_ne_nil (Nat.toDigits_ne_nil (n := n) (b := 10))
    have hzero : d ≠ '0' := fun c ↦ Text.head?_toDigits hn (by rw [hd, c]; rfl)
    rw [hd] at hall ⊢
    have hds : ∀ c ∈ ds, c.isDigit = true := fun c hc ↦ hall c (List.mem_cons_of_mem d hc)
    have hstop : rest.takeWhile Char.isDigit = [] ∧ rest.dropWhile Char.isDigit = rest := by
      cases rest with
      | nil => exact ⟨rfl, rfl⟩
      | cons c rest => simp [(hrest c rfl).1]
    rw [List.cons_append, takeWhole, if_neg hzero, if_pos (hall d (by simp)),
      List.takeWhile_append_of_pos hds, List.dropWhile_append_of_pos hds, hstop.1, hstop.2,
      List.append_nil]

theorem takeFraction_of_endsNumber {rest : List Char} (hrest : EndsNumber rest) :
    takeFraction rest = ([], rest) := by
  rw [takeFraction.eq_def]
  split
  · exact absurd rfl (hrest '.' rfl).2.1
  · rfl

theorem takeExponent_of_endsNumber {rest : List Char} (hrest : EndsNumber rest) :
    takeExponent rest = (none, rest) := by
  cases rest with
  | nil => rfl
  | cons c rest =>
    have hc := (hrest c rfl).2.2
    rw [takeExponent.eq_def]
    exact if_neg (not_or.mpr hc)

theorem readNumber_toDigits (start : Nat) {i : Int} (hw : Text.isWritable i = true)
    {rest : List Char} (hrest : EndsNumber rest) :
    readNumber start (decide (i < 0)) (Nat.toDigits 10 i.natAbs ++ rest) = .ok (.int i, rest) := by
  have hlen := Text.length_toDigits_le hw
  rw [readNumber, takeWhole_toDigits _ hrest]
  simp only [takeFraction_of_endsNumber hrest, takeExponent_of_endsNumber hrest]
  rw [if_pos (by simp), if_neg (by omega), Text.readDecimal_toDigits]
  rcases Int.lt_or_le i 0 with hi | hi
  · rw [decide_eq_true hi, if_pos rfl, Int.ofNat_natAbs_of_nonpos (by omega), Int.neg_neg]
  · rw [decide_eq_false (by omega), if_neg (by decide), Int.natAbs_of_nonneg hi]

/-! ## Words -/

theorem readWord?_null (rest : List Char) :
    readWord? ('n' :: ['u', 'l', 'l'] ++ rest) = some (.null, rest) := by
  simp [readWord?, words, stripWord?]

theorem readWord?_true (rest : List Char) :
    readWord? ('t' :: ['r', 'u', 'e'] ++ rest) = some (.bool true, rest) := by
  simp [readWord?, words, stripWord?]

theorem readWord?_false (rest : List Char) :
    readWord? ('f' :: ['a', 'l', 's', 'e'] ++ rest) = some (.bool false, rest) := by
  simp [readWord?, words, stripWord?]

/-- The characters that words start with. -/
def wordStarts : List Char := ['n', 't', 'f', 'N', 'I', '-']

theorem readWord?_eq_none {c : Char} (hc : c ∉ wordStarts) (rest : List Char) :
    readWord? (c :: rest) = none := by
  simp only [wordStarts, List.mem_cons, List.not_mem_nil, or_false, not_or] at hc
  simp [readWord?, words, stripWord?, Ne.symm hc.1, Ne.symm hc.2.1, Ne.symm hc.2.2.1,
    Ne.symm hc.2.2.2.1, Ne.symm hc.2.2.2.2.1, Ne.symm hc.2.2.2.2.2]

theorem ne_of_isDigit {c d : Char} (hc : c.isDigit = true) (hd : d.isDigit = false) : c ≠ d := by
  rintro rfl
  rw [hc] at hd
  cases hd

theorem not_mem_of_isDigit {c : Char} {l : List Char} (hc : c.isDigit = true)
    (hl : l.any Char.isDigit = false) : c ∉ l := by
  intro h
  have hany : l.any Char.isDigit = true := List.any_eq_true.mpr ⟨c, h, hc⟩
  rw [hl] at hany
  cases hany

/-- A minus sign before a digit is not the sign of a word. -/
theorem readWord?_minus {c : Char} (hc : c.isDigit = true) (rest : List Char) :
    readWord? ('-' :: c :: rest) = none := by
  have hI : 'I' ≠ c := (ne_of_isDigit hc (by decide)).symm
  simp [readWord?, words, stripWord?, hI]

/-! ## Values -/

/-- Behind the cases for texts, arrays and objects come words and numbers. -/
theorem readValue_scalar {c : Char} (hc : c ∉ [Text.doubleQuote, '[', '\x7b']) (n : Nat)
    (rest : List Char) : readValue (n + 1) (c :: rest) =
      match readWord? (c :: rest) with
      | some found => .ok found
      | none =>
        if c = '-' then readNumber (rest.length + 1) true rest
        else readNumber (rest.length + 1) false (c :: rest) := by
  simp only [List.mem_cons, List.not_mem_nil, or_false, not_or] at hc
  rw [readValue, if_neg hc.1, if_neg hc.2.1]
  exact if_neg hc.2.2

/-- No value starts with any other character. -/
theorem readValue_ne_ok {c : Char} (hc : c ∉ [Text.doubleQuote, '[', '\x7b'])
    (hw : c ∉ wordStarts) (hd : c.isDigit = false) (n : Nat) (rest : List Char)
    (r : Json × List Char) : readValue n (c :: rest) ≠ .ok r := by
  cases n with
  | zero => simp [readValue]
  | succ n =>
    have hzero : c ≠ '0' := fun h ↦ by rw [h] at hd; cases hd
    have hminus : c ≠ '-' := fun h ↦ hw (by rw [h]; decide)
    have hnumber : readNumber (rest.length + 1) false (c :: rest) =
        .error (.malformed .expectedValue (rest.length + 1)) := by
      rw [readNumber, takeWhole, if_neg hzero, if_neg (by rw [hd]; decide)]
    rw [readValue_scalar hc, readWord?_eq_none hw]
    simp only [if_neg hminus, hnumber]
    rintro ⟨⟩

/-- A value starts with a character that is no blank, no closing bracket and no byte order mark. -/
theorem readValue_head {n : Nat} {cs : List Char} {r : Json × List Char}
    (h : readValue n cs = .ok r) :
    ∃ c tail, cs = c :: tail ∧ isSpace c = false ∧ c ≠ ']' ∧ c ≠ '\ufeff' := by
  cases cs with
  | nil => cases n <;> simp [readValue] at h
  | cons c tail =>
    refine ⟨c, tail, rfl, ?_, ?_, ?_⟩
    · rw [Bool.eq_false_iff]
      intro hc
      simp only [isSpace, Bool.or_eq_true, beq_iff_eq] at hc
      rcases hc with ((rfl | rfl) | rfl) | rfl <;>
        exact readValue_ne_ok (by decide) (by decide) (by decide) n tail r h
    · rintro rfl
      exact readValue_ne_ok (by decide) (by decide) (by decide) n tail r h
    · rintro rfl
      exact readValue_ne_ok (by decide) (by decide) (by decide) n tail r h

theorem skipSpace_append {bs : List Char} {c : Char} (hbs : ∀ b ∈ bs, isSpace b = true)
    (hc : isSpace c = false) (cs : List Char) : skipSpace (bs ++ c :: cs) = c :: cs := by
  rw [skipSpace, List.dropWhile_append_of_pos hbs, List.dropWhile_cons_of_neg (by simp [hc])]

theorem skipSpace_cons {c : Char} (hc : isSpace c = false) (cs : List Char) :
    skipSpace (c :: cs) = c :: cs := by
  rw [skipSpace, List.dropWhile_cons_of_neg (by simp [hc])]

/-- Blanks in front of a value are skipped. -/
theorem skipSpace_append_of_readValue {n : Nat} {cs bs : List Char} {r : Json × List Char}
    (hbs : ∀ b ∈ bs, isSpace b = true) (h : readValue n cs = .ok r) :
    skipSpace (bs ++ cs) = cs := by
  obtain ⟨c, tail, rfl, hc, -⟩ := readValue_head h
  exact skipSpace_append hbs hc tail

theorem skipSpace_of_readValue {n : Nat} {cs : List Char} {r : Json × List Char}
    (h : readValue n cs = .ok r) : skipSpace cs = cs := by
  obtain ⟨c, tail, rfl, hc, -⟩ := readValue_head h
  exact skipSpace_cons hc tail

/-- Between items stands a comma, between key and value a colon, and behind both only blanks. -/
structure Spacing.IsReadable (sp : Spacing) : Prop where
  afterItem : ∃ bs, sp.afterItem = ',' :: bs ∧ ∀ b ∈ bs, isSpace b = true
  afterKey : ∃ bs, sp.afterKey = ':' :: bs ∧ ∀ b ∈ bs, isSpace b = true

theorem Spacing.isReadable_compact : Spacing.compact.IsReadable :=
  ⟨⟨[], rfl, by simp⟩, ⟨[], rfl, by simp⟩⟩

theorem Spacing.isReadable_spaced : Spacing.spaced.IsReadable :=
  ⟨⟨[' '], rfl, by simp [isSpace]⟩, ⟨[' '], rfl, by simp [isSpace]⟩⟩

/-- The value is read back from its text, whatever follows and however generous the bound. -/
def ReadsBack (sp : Spacing) (v : Json) : Prop :=
  ∀ n rest, (writeValue sp v).length ≤ n → EndsNumber rest →
    readValue n (writeValue sp v ++ rest) = .ok (v, rest)

/-! ### Scalars -/

/-- Only a bound on the steps that allows none stops the reader at once. -/
theorem exists_succ_of_length_le {c : Char} {cs : List Char} {n : Nat} (h : (c :: cs).length ≤ n) :
    ∃ m, n = m + 1 ∧ cs.length ≤ m := by
  rw [List.length_cons] at h
  exact ⟨n - 1, by omega, by omega⟩

theorem readsBack_of_word {sp : Spacing} {v : Json} {c : Char} {cs : List Char}
    (hv : writeValue sp v = c :: cs) (hc : c ∉ [Text.doubleQuote, '[', '\x7b'])
    (hword : ∀ rest, readWord? (c :: cs ++ rest) = some (v, rest)) : ReadsBack sp v := by
  intro n rest hn _
  rw [hv] at hn ⊢
  obtain ⟨m, rfl, -⟩ := exists_succ_of_length_le hn
  rw [List.cons_append, readValue_scalar hc, ← List.cons_append, hword]

theorem readsBack_null (sp : Spacing) : ReadsBack sp .null :=
  readsBack_of_word (by simp [writeValue]) (by decide) readWord?_null

theorem readsBack_bool (sp : Spacing) : (b : Bool) → ReadsBack sp (.bool b)
  | true => readsBack_of_word (by simp [writeValue]) (by decide) readWord?_true
  | false => readsBack_of_word (by simp [writeValue]) (by decide) readWord?_false

theorem readsBack_text (sp : Spacing) (s : String) : ReadsBack sp (.text s) := by
  intro n rest hn _
  rw [writeValue, writeText_append]
  rw [writeValue, writeText, List.cons_append] at hn
  obtain ⟨m, rfl, -⟩ := exists_succ_of_length_le hn
  rw [readValue, if_pos rfl, readText_writeText]

theorem readsBack_int (sp : Spacing) {i : Int} (hw : Text.isWritable i = true) :
    ReadsBack sp (.int i) := by
  intro n rest hn hrest
  obtain ⟨d, ds, hd⟩ := List.exists_cons_of_ne_nil
    (Nat.toDigits_ne_nil (n := i.natAbs) (b := 10))
  have hdigit : d.isDigit = true :=
    Nat.isDigit_of_mem_toDigits (b := 10) (n := i.natAbs) (by decide) (by decide) (by simp [hd])
  have hread := fun start ↦ readNumber_toDigits start hw hrest
  rw [hd] at hread
  rw [writeValue] at hn ⊢
  rcases Int.lt_or_le i 0 with hi | hi
  · rw [Text.toList_toString_of_neg hi, hd] at hn ⊢
    rw [decide_eq_true hi] at hread
    obtain ⟨m, rfl, -⟩ := exists_succ_of_length_le hn
    rw [List.cons_append, readValue_scalar (by decide), List.cons_append,
      readWord?_minus hdigit]
    exact hread _
  · rw [Text.toList_toString_of_nonneg hi, hd] at hn ⊢
    rw [decide_eq_false (by omega)] at hread
    obtain ⟨m, rfl, -⟩ := exists_succ_of_length_le hn
    rw [List.cons_append, readValue_scalar (not_mem_of_isDigit hdigit (by decide)),
      readWord?_eq_none (not_mem_of_isDigit hdigit (by decide))]
    simp only [if_neg (ne_of_isDigit hdigit (d := '-') (by decide))]
    exact hread _

/-! ### Arrays and objects -/

theorem endsNumber_cons {c : Char} (h : c.isDigit = false ∧ c ≠ '.' ∧ c ≠ 'e' ∧ c ≠ 'E')
    (rest : List Char) : EndsNumber (c :: rest) := by
  rintro d hd
  obtain rfl : c = d := by simpa using hd
  exact h

section

variable {sp : Spacing} (hsp : sp.IsReadable)
include hsp

theorem endsNumber_writeItems (items : List Json) (rest : List Char) :
    EndsNumber (writeItems sp items ++ ']' :: rest) := by
  cases items with
  | nil => exact endsNumber_cons (by decide) _
  | cons item items =>
    obtain ⟨bs, hbs, -⟩ := hsp.afterItem
    rw [writeItems, hbs]
    exact endsNumber_cons (by decide) _

theorem endsNumber_writeMembers (members : List (String × Json)) (rest : List Char) :
    EndsNumber (writeMembers sp members ++ '\x7d' :: rest) := by
  cases members with
  | nil => exact endsNumber_cons (by decide) _
  | cons m members =>
    obtain ⟨bs, hbs, -⟩ := hsp.afterItem
    rw [writeMembers, hbs]
    exact endsNumber_cons (by decide) _

/-- The items of an array are read back up to the closing bracket. -/
theorem readItems_writeItems {item : Json} {items : List Json} (hitem : ReadsBack sp item)
    (hitems : ∀ v ∈ items, ReadsBack sp v) {n : Nat} (rest : List Char)
    (hn : (writeValue sp item ++ writeItems sp items).length + 1 ≤ n) :
    readItems n (writeValue sp item ++ (writeItems sp items ++ ']' :: rest)) =
      .ok (item :: items, rest) := by
  induction items generalizing item n with
  | nil =>
    obtain ⟨m, rfl⟩ : ∃ m, n = m + 1 := ⟨n - 1, by omega⟩
    rw [List.length_append] at hn
    have hread := hitem m (']' :: rest) (by omega) (endsNumber_writeItems hsp [] rest)
    rw [writeItems, List.nil_append, readItems, hread]
    simp only [skipSpace_cons (c := ']') (by decide)]
  | cons next items ih =>
    obtain ⟨m, rfl⟩ : ∃ m, n = m + 1 := ⟨n - 1, by omega⟩
    have hread := hitem m (writeItems sp (next :: items) ++ ']' :: rest)
      (by rw [List.length_append] at hn; omega) (endsNumber_writeItems hsp _ rest)
    have hnext := ih (n := m) (hitems next (by simp)) (fun v hv ↦ hitems v (by simp [hv])) (by
      simp only [writeItems, List.length_append] at hn ⊢
      obtain ⟨bs, hbs, -⟩ := hsp.afterItem
      have : 1 ≤ sp.afterItem.length := by rw [hbs, List.length_cons]; omega
      omega)
    have hfirst := hitems next (by simp) (writeValue sp next).length
      (writeItems sp items ++ ']' :: rest) (Nat.le_refl _) (endsNumber_writeItems hsp _ rest)
    obtain ⟨bs, hbs, hblank⟩ := hsp.afterItem
    have htext : writeItems sp (next :: items) ++ ']' :: rest =
        ',' :: (bs ++ (writeValue sp next ++ (writeItems sp items ++ ']' :: rest))) := by
      simp [writeItems, hbs]
    rw [readItems, hread]
    simp only [htext, skipSpace_cons (c := ',') (by decide),
      skipSpace_append_of_readValue hblank hfirst, hnext]

/-- The members of an object are read back up to the closing brace. -/
theorem readMembers_writeMembers (key : String) {v : Json} {members : List (String × Json)}
    (hv : ReadsBack sp v) (hmembers : ∀ m ∈ members, ReadsBack sp m.2) {n : Nat}
    (rest : List Char) (hn : (writeValue sp v ++ writeMembers sp members).length + 1 ≤ n) :
    readMembers n (writeText key ++ (sp.afterKey ++ (writeValue sp v ++
      (writeMembers sp members ++ '\x7d' :: rest)))) = .ok ((key, v) :: members, rest) := by
  obtain ⟨ks, hks, hkey⟩ := hsp.afterKey
  induction members generalizing key v n with
  | nil =>
    obtain ⟨m, rfl⟩ : ∃ m, n = m + 1 := ⟨n - 1, by omega⟩
    rw [List.length_append] at hn
    have hread := hv m ('\x7d' :: rest) (by omega) (endsNumber_writeMembers hsp [] rest)
    rw [writeMembers, List.nil_append, writeText_append, readMembers, if_pos rfl,
      readText_writeText, hks]
    simp only [List.cons_append, skipSpace_cons (c := ':') (by decide),
      skipSpace_append_of_readValue hkey hread, hread, skipSpace_cons (c := '\x7d') (by decide)]
  | cons next members ih =>
    obtain ⟨bs, hbs, hblank⟩ := hsp.afterItem
    obtain ⟨m, rfl⟩ : ∃ m, n = m + 1 := ⟨n - 1, by omega⟩
    have hread := hv m (writeMembers sp (next :: members) ++ '\x7d' :: rest)
      (by rw [List.length_append] at hn; omega) (endsNumber_writeMembers hsp _ rest)
    have hnext := ih (n := m) next.1 (hmembers next (by simp))
      (fun w hw ↦ hmembers w (by simp [hw])) (by
        simp only [writeMembers, List.length_append, hbs, List.length_cons] at hn ⊢
        omega)
    have htext : writeMembers sp (next :: members) ++ '\x7d' :: rest =
        ',' :: (bs ++ (writeText next.1 ++ (sp.afterKey ++ (writeValue sp next.2 ++
          (writeMembers sp members ++ '\x7d' :: rest))))) := by
      simp [writeMembers, hbs]
    have hskip : ∀ cs, skipSpace (bs ++ (writeText next.1 ++ cs)) = writeText next.1 ++ cs :=
      fun cs ↦ writeText_append next.1 cs ▸ skipSpace_append hblank (by decide) _
    rw [writeText_append key, readMembers, if_pos rfl, readText_writeText, hks]
    simp only [List.cons_append, skipSpace_cons (c := ':') (by decide),
      skipSpace_append_of_readValue hkey hread, hread]
    simp only [htext, skipSpace_cons (c := ',') (by decide), hskip, hnext]

theorem readsBack_array {items : List Json} (h : ∀ v ∈ items, ReadsBack sp v) :
    ReadsBack sp (.array items) := by
  intro n rest hn _
  cases items with
  | nil =>
    rw [writeValue] at hn ⊢
    obtain ⟨m, rfl, -⟩ := exists_succ_of_length_le hn
    rw [List.cons_append, readValue, if_neg (by decide), if_pos rfl, List.cons_append,
      skipSpace_cons (by decide)]
    rfl
  | cons item items =>
    have hitem := h item (by simp)
    have hitems : ∀ v ∈ items, ReadsBack sp v := fun v hv ↦ h v (by simp [hv])
    have htext : writeValue sp (.array (item :: items)) ++ rest =
        '[' :: (writeValue sp item ++ (writeItems sp items ++ ']' :: rest)) := by
      simp [writeValue]
    obtain ⟨m, rfl, hm⟩ : ∃ m, n = m + 1 ∧
        (writeValue sp item ++ writeItems sp items).length + 1 ≤ m := by
      simp only [writeValue, List.length_append, List.length_cons, List.length_nil] at hn
      exact ⟨n - 1, by omega, by rw [List.length_append]; omega⟩
    have hread := readItems_writeItems hsp hitem hitems rest hm
    have hfirst := hitem _ _ (Nat.le_refl _) (endsNumber_writeItems hsp items rest)
    have hskip := skipSpace_of_readValue hfirst
    -- no value starts with a bracket that closes, so the array is not taken for an empty one
    obtain ⟨c, tail, hcons, -, hclose, -⟩ := readValue_head hfirst
    rw [htext, readValue, if_neg (by decide), if_pos rfl]
    rw [hskip]
    split
    · next after heq =>
      rw [hcons] at heq
      exact absurd (List.cons.inj heq).1 hclose
    · rw [hread]

theorem readsBack_object {members : List (String × Json)} (hkeys : (members.map Prod.fst).Nodup)
    (h : ∀ m ∈ members, ReadsBack sp m.2) : ReadsBack sp (.object members) := by
  intro n rest hn _
  rcases members with _ | ⟨⟨key, v⟩, members⟩
  · rw [writeValue] at hn ⊢
    obtain ⟨m, rfl, -⟩ := exists_succ_of_length_le hn
    rw [List.cons_append, readValue, if_neg (by decide), if_neg (by decide), if_pos rfl,
      List.cons_append, skipSpace_cons (by decide)]
    rfl
  · have hv : ReadsBack sp v := h (key, v) (by simp)
    have hmembers : ∀ m ∈ members, ReadsBack sp m.2 := fun m hm ↦ h m (by simp [hm])
    have htext : writeValue sp (.object ((key, v) :: members)) ++ rest =
        '\x7b' :: (writeText key ++ (sp.afterKey ++ (writeValue sp v ++
          (writeMembers sp members ++ '\x7d' :: rest)))) := by
      simp [writeValue]
    obtain ⟨m, rfl, hm⟩ : ∃ m, n = m + 1 ∧
        (writeValue sp v ++ writeMembers sp members).length + 1 ≤ m := by
      simp only [writeValue, List.length_append, List.length_cons, List.length_nil] at hn
      exact ⟨n - 1, by omega, by rw [List.length_append]; omega⟩
    have hread := readMembers_writeMembers hsp key hv hmembers rest hm
    -- members with distinct keys stay what they are when they are gathered
    have hof : ofMembers ((key, v) :: members) = .object ((key, v) :: members) := by
      rw [ofMembers, OrderedMap.entries_ofList hkeys]
    rw [writeText_append] at htext hread
    rw [htext, readValue, if_neg (by decide), if_neg (by decide), if_pos rfl,
      skipSpace_cons (c := Text.doubleQuote) (by decide)]
    split
    · next after heq => cases heq
    · rw [hread]
      simp only [hof]

/-- **Every value is read back from its text**, unless it holds a float, an integer that is too
long, or an object with a repeated key. -/
theorem readsBack (v : Json) (hfloat : v.IsFloatFree) (hkeys : v.HasDistinctKeys)
    (hwrite : v.isWritable = true) : ReadsBack sp v := by
  induction v using Json.induct with
  | null => exact readsBack_null sp
  | bool b => exact readsBack_bool sp b
  | int i => exact readsBack_int sp hwrite
  | float x => cases hfloat
  | text s => exact readsBack_text sp s
  | array items ih =>
    have hitems : ∀ v ∈ items, ReadsBack sp v := fun v hv ↦
      ih v hv (isFloatFree_array_iff.mp hfloat v hv) (hasDistinctKeys_array_iff.mp hkeys v hv)
        (isWritable_array_iff.mp hwrite v hv)
    exact readsBack_array hsp hitems
  | object members ih =>
    obtain ⟨hown, hvalues⟩ := hasDistinctKeys_object_iff.mp hkeys
    have hmembers : ∀ m ∈ members, ReadsBack sp m.2 := fun m hm ↦
      ih m hm (isFloatFree_object_iff.mp hfloat m hm) (hvalues m hm)
        (isWritable_object_iff.mp hwrite m hm)
    exact readsBack_object hsp hown hmembers

end

/-! ## Documents -/

/-- **Reading undoes writing**, for every document without floats, integers that are too long and
repeated keys. -/
theorem read_write {sp : Spacing} (hsp : sp.IsReadable) {v : Json} (hfloat : v.IsFloatFree)
    (hkeys : v.HasDistinctKeys) (hwrite : v.isWritable = true) : read (v.write sp) = .ok v := by
  have hread := readsBack hsp v hfloat hkeys hwrite (2 * (writeValue sp v).length + 2) []
    (by omega) (by simp [EndsNumber])
  rw [List.append_nil] at hread
  have hskip := skipSpace_of_readValue hread
  obtain ⟨c, tail, hcons, -, -, hmark⟩ := readValue_head hread
  rw [read, write, String.toList_ofList]
  split
  · next heq =>
    rw [hcons] at heq
    exact absurd (List.cons.inj heq).1 hmark
  · rw [readUnmarked, String.toList_ofList, readChars, hskip, hread]
    rfl

end RevisionGraph.Json
