import Mathlib.Tactic.SplitIfs
import RevisionGraph.Text.Encoding

/-!
# Texts are read back from their bytes

`Text.Utf8.encode` writes every character with the shortest sequence of bytes, and `step` reads no
other: it refuses longer ones and those of surrogates by the range of the second byte.  So the
ranges are what there is to check.  `step_encodeChar` does so for each length of a sequence, with
the first byte in `step_two`, `step_three` and `step_four` and the others in `follow_ofNat`; whole
texts come down to it, `decodeFile_encode`.
-/

set_option autoImplicit false

namespace RevisionGraph.Text

namespace Utf8

/-! ## One character -/

/-- A byte that goes on with a sequence adds its six bits. -/
theorem follow_ofNat {acc width n m : Nat} {lo hi : UInt8} (hm : m < 0x40)
    (hlo : lo.toNat ≤ 0x80 + m) (hhi : 0x80 + m ≤ hi.toNat) (rest : Bytes) :
    follow acc width lo hi (n + 1) (UInt8.ofNat (0x80 + m) :: rest) =
      follow (acc * 0x40 + m) (width + 1) 0x80 0xbf n rest := by
  have htoNat : (UInt8.ofNat (0x80 + m)).toNat = 0x80 + m := by
    rw [UInt8.toNat_ofNat', Nat.mod_eq_of_lt (by omega)]
  have hrange : (decide (lo ≤ UInt8.ofNat (0x80 + m)) && decide (UInt8.ofNat (0x80 + m) ≤ hi)) =
      true := by
    rw [Bool.and_eq_true, decide_eq_true_iff, decide_eq_true_iff, UInt8.le_iff_toNat_le,
      UInt8.le_iff_toNat_le, htoNat]
    exact ⟨hlo, hhi⟩
  rw [follow, if_pos hrange, htoNat, show (0x80 + m) % 0x40 = m by omega]

/-- Behind the second byte of a sequence there is no other limit. -/
theorem follow_ofNat_of_lt {acc width n m : Nat} (hm : m < 0x40) (rest : Bytes) :
    follow acc width 0x80 0xbf (n + 1) (UInt8.ofNat (0x80 + m) :: rest) =
      follow (acc * 0x40 + m) (width + 1) 0x80 0xbf n rest := by
  refine follow_ofNat hm ?_ ?_ rest
  · exact Nat.le_add_right 0x80 m
  · simp only [UInt8.reduceToNat]
    omega

theorem step_two {n : Nat} (h : 2 ≤ n) (h' : n < 0x20) (rest : Bytes) :
    step (UInt8.ofNat (0xc0 + n) :: rest) = follow n 1 0x80 0xbf 1 rest := by
  have hlead : ∀ m < 0x1e, ¬ UInt8.ofNat (0xc0 + (2 + m)) < 0x80 ∧
      lead? (UInt8.ofNat (0xc0 + (2 + m))) = some (2 + m, 1, 0x80, 0xbf) := by
    decide
  obtain ⟨m, rfl⟩ := Nat.exists_eq_add_of_le h
  obtain ⟨hbyte, hbits⟩ := hlead m (by omega)
  rw [step, if_neg hbyte, hbits]

/-- The least and the greatest byte that may come second in a sequence of three bytes. -/
def secondOfThree (n : Nat) : UInt8 × UInt8 :=
  (if n = 0 then 0xa0 else 0x80, if n = 0xd then 0x9f else 0xbf)

theorem step_three {n : Nat} (h : n < 0x10) (rest : Bytes) :
    step (UInt8.ofNat (0xe0 + n) :: rest) =
      follow n 1 (secondOfThree n).1 (secondOfThree n).2 2 rest := by
  have hlead : ∀ n < 0x10, ¬ UInt8.ofNat (0xe0 + n) < 0x80 ∧
      lead? (UInt8.ofNat (0xe0 + n)) = some (n, 2, (secondOfThree n).1, (secondOfThree n).2) := by
    decide
  obtain ⟨hbyte, hbits⟩ := hlead n h
  rw [step, if_neg hbyte, hbits]

/-- The least and the greatest byte that may come second in a sequence of four bytes. -/
def secondOfFour (n : Nat) : UInt8 × UInt8 :=
  (if n = 0 then 0x90 else 0x80, if n = 4 then 0x8f else 0xbf)

theorem step_four {n : Nat} (h : n < 5) (rest : Bytes) :
    step (UInt8.ofNat (0xf0 + n) :: rest) =
      follow n 1 (secondOfFour n).1 (secondOfFour n).2 3 rest := by
  have hlead : ∀ n < 5, ¬ UInt8.ofNat (0xf0 + n) < 0x80 ∧
      lead? (UInt8.ofNat (0xf0 + n)) = some (n, 3, (secondOfFour n).1, (secondOfFour n).2) := by
    decide
  obtain ⟨hbyte, hbits⟩ := hlead n h
  rw [step, if_neg hbyte, hbits]

/-- **A character is read off the front of its bytes**, whatever comes behind them. -/
theorem step_encodeChar (c : Char) (rest : Bytes) :
    step (encodeChar c ++ rest) = .char c (encodeChar c).length := by
  have hvalid : c.toNat < 0xd800 ∨ 0xdfff < c.toNat ∧ c.toNat < 0x110000 := c.valid
  have hback : Char.ofNat c.toNat = c := Char.ofNat_toNat c
  rw [encodeChar]
  generalize c.toNat = n at hvalid hback
  split_ifs with hone htwo hthree
  · have htoNat : (UInt8.ofNat n).toNat = n := by
      rw [UInt8.toNat_ofNat', Nat.mod_eq_of_lt (by omega)]
    have hlt : UInt8.ofNat n < 0x80 := by
      rw [UInt8.lt_iff_toNat_lt, htoNat]
      exact hone
    rw [List.singleton_append, step, if_pos hlt, htoNat, hback]
    rfl
  · have hn : n / 0x40 * 0x40 + n % 0x40 = n := by omega
    simp only [List.cons_append, List.nil_append]
    rw [step_two (by omega) (by omega), follow_ofNat_of_lt (by omega), follow, hn, hback]
    rfl
  · have hn : (n / 0x1000 * 0x40 + n / 0x40 % 0x40) * 0x40 + n % 0x40 = n := by omega
    have hlo : (secondOfThree (n / 0x1000)).1.toNat ≤ 0x80 + n / 0x40 % 0x40 := by
      dsimp only [secondOfThree]
      split <;> simp only [UInt8.reduceToNat] <;> omega
    have hhi : 0x80 + n / 0x40 % 0x40 ≤ (secondOfThree (n / 0x1000)).2.toNat := by
      dsimp only [secondOfThree]
      split <;> simp only [UInt8.reduceToNat] <;> omega
    simp only [List.cons_append, List.nil_append]
    rw [step_three (by omega), follow_ofNat (by omega) hlo hhi, follow_ofNat_of_lt (by omega),
      follow, hn, hback]
    rfl
  · have hn : ((n / 0x40000 * 0x40 + n / 0x1000 % 0x40) * 0x40 + n / 0x40 % 0x40) * 0x40 +
        n % 0x40 = n := by omega
    have hlo : (secondOfFour (n / 0x40000)).1.toNat ≤ 0x80 + n / 0x1000 % 0x40 := by
      dsimp only [secondOfFour]
      split <;> simp only [UInt8.reduceToNat] <;> omega
    have hhi : 0x80 + n / 0x1000 % 0x40 ≤ (secondOfFour (n / 0x40000)).2.toNat := by
      dsimp only [secondOfFour]
      split <;> simp only [UInt8.reduceToNat] <;> omega
    simp only [List.cons_append, List.nil_append]
    rw [step_four (by omega), follow_ofNat (by omega) hlo hhi, follow_ofNat_of_lt (by omega),
      follow_ofNat_of_lt (by omega), follow, hn, hback]
    rfl

/-! ## Whole texts -/

theorem encodeChar_ne_nil (c : Char) : encodeChar c ≠ [] := by
  rw [encodeChar]
  split_ifs <;> exact List.cons_ne_nil _ _

/-- Reading goes through the characters one by one, if it may read that many. -/
theorem decodeWith_flatMap_encodeChar {cs : List Char} {bound : Nat} (h : cs.length ≤ bound)
    (start : Nat) : decodeWith step bound start (cs.flatMap encodeChar) = .ok cs := by
  induction cs generalizing bound start with
  | nil => cases bound <;> rfl
  | cons c rest ih =>
    obtain ⟨n, rfl⟩ : ∃ n, bound = n + 1 := ⟨bound - 1, by rw [List.length_cons] at h; omega⟩
    have hstep := step_encodeChar c (rest.flatMap encodeChar)
    have hdrop : (encodeChar c ++ rest.flatMap encodeChar).drop (encodeChar c).length =
        rest.flatMap encodeChar := List.drop_left
    obtain ⟨b, more, hb⟩ := List.exists_cons_of_ne_nil (encodeChar_ne_nil c)
    rw [List.flatMap_cons]
    rw [hb, List.cons_append] at hstep hdrop ⊢
    rw [decodeWith, hstep]
    simp only [hdrop]
    rw [ih (Nat.le_of_succ_le_succ h)]

theorem length_le_length_flatMap_encodeChar (cs : List Char) :
    cs.length ≤ (cs.flatMap encodeChar).length := by
  induction cs with
  | nil => exact Nat.le_refl 0
  | cons c rest ih =>
    have hpos := List.length_pos_iff.mpr (encodeChar_ne_nil c)
    rw [List.flatMap_cons, List.length_append, List.length_cons]
    omega

end Utf8

/-- **A text is read back from a file that it was written to.** -/
theorem decodeFile_encode (s : String) : decodeFile (Utf8.encode s) = .ok s := by
  have hdecode : Utf8.decode (Utf8.encode s) = .ok s.toList :=
    Utf8.decodeWith_flatMap_encodeChar (Utf8.length_le_length_flatMap_encodeChar _) 0
  rw [decodeFile, hdecode]
  exact congrArg Except.ok String.ofList_toList

end RevisionGraph.Text
