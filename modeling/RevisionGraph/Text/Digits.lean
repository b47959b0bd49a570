import RevisionGraph.Number.Operations
import RevisionGraph.Text.Blank

/-!
# Digits and integers in text

* **ASCII digits.**  `isDecimal` accepts a non-empty run of the ten ASCII digits and `readDecimal`
  gives its value; `readHex` does so for hexadecimal digits.
* **The digit limit.**  Texts of more than `digitLimit` digits are not converted, in either
  direction; leading zeros count.
* **Any script.**  `digitValue?` knows the decimal digits of every script, and `readInteger?` reads
  an integer written with them: blanks around it, one sign, single underscores between digits.
-/

set_option autoImplicit false

namespace RevisionGraph.Text

/-- The greatest number of digits that is converted between an integer and its text. -/
def digitLimit : Nat := 4300

/-- A non-empty run of ASCII digits. -/
def isDecimal (cs : List Char) : Bool := !cs.isEmpty && cs.all Char.isDigit

/-- The value of a run of ASCII digits. -/
def readDecimal (cs : List Char) : Nat := Nat.ofDigitChars 10 cs 0

/-- The value of a hexadecimal digit, a letter being either case. -/
def hexValue? (c : Char) : Option Nat :=
  if '0' ≤ c && c ≤ '9' then some (c.toNat - 0x30)
  else if 'a' ≤ c && c ≤ 'f' then some (c.toNat - 0x57)
  else if 'A' ≤ c && c ≤ 'F' then some (c.toNat - 0x37)
  else none

/-- The hexadecimal digits at the front. -/
def takeHex (cs : List Char) : List Char := cs.takeWhile fun c ↦ (hexValue? c).isSome

/-- The value of a run of hexadecimal digits. -/
def readHex (cs : List Char) : Nat := cs.foldl (fun n c ↦ 16 * n + (hexValue? c).getD 0) 0

/-- The integer is short enough to be written in decimal. -/
def isWritable (i : Int) : Bool := i.natAbs < 10 ^ digitLimit

theorem isDecimal_toDigits (n : Nat) : isDecimal (Nat.toDigits 10 n) = true := by
  simp only [isDecimal, Bool.and_eq_true, Bool.not_eq_true', List.isEmpty_eq_false_iff,
    List.all_eq_true]
  exact ⟨Nat.toDigits_ne_nil, fun c h ↦ Nat.isDigit_of_mem_toDigits (by decide) (by decide) h⟩

theorem readDecimal_toDigits (n : Nat) : readDecimal (Nat.toDigits 10 n) = n :=
  Nat.ofDigitChars_toDigits (by decide) (by decide)

/-! ## Digits of every script -/

/-- The zeros of the decimal digit runs; the nine code points after each are its one to nine
(Unicode 14). -/
def zeros : List Nat := [
  0x30, 0x660, 0x6f0, 0x7c0, 0x966, 0x9e6, 0xa66, 0xae6, 0xb66, 0xbe6, 0xc66, 0xce6, 0xd66,
  0xde6, 0xe50, 0xed0, 0xf20, 0x1040, 0x1090, 0x17e0, 0x1810, 0x1946, 0x19d0, 0x1a80, 0x1a90,
  0x1b50, 0x1bb0, 0x1c40, 0x1c50, 0xa620, 0xa8d0, 0xa900, 0xa9d0, 0xa9f0, 0xaa50, 0xabf0,
  0xff10, 0x104a0, 0x10d30, 0x11066, 0x110f0, 0x11136, 0x111d0, 0x112f0, 0x11450, 0x114d0,
  0x11650, 0x116c0, 0x11730, 0x118e0, 0x11950, 0x11c50, 0x11d50, 0x11da0, 0x16a60, 0x16ac0,
  0x16b50, 0x1d7ce, 0x1d7d8, 0x1d7e2, 0x1d7ec, 0x1d7f6, 0x1e140, 0x1e2f0, 0x1e950, 0x1fbf0]

/-- The value of a decimal digit of any script. -/
def digitValue? (c : Char) : Option Nat :=
  (zeros.find? fun z ↦ z ≤ c.toNat && c.toNat ≤ z + 9).map fun z ↦ c.toNat - z

/-- Blanks that may stand around an integer: the ASCII ones up to the space, without the four
separators U+001C to U+001F, and every other blank. -/
def isIntegerPadding (c : Char) : Bool :=
  isBlank c && !(0x1c ≤ c.toNat && c.toNat ≤ 0x1f)

/-- Digits with single underscores between them, most significant first. -/
def readGroups : List Char → Option (List Nat)
  | [] => none
  | [c] => (digitValue? c).map fun d ↦ [d]
  | c :: '_' :: rest => do
    let d ← digitValue? c
    let ds ← readGroups rest
    return d :: ds
  | c :: rest => do
    let d ← digitValue? c
    let ds ← readGroups rest
    return d :: ds

/-- Whether the text of an integer has a minus sign, and what is behind its sign. -/
def cutSign (s : String) : Bool × List Char :=
  match trimBy isIntegerPadding s.toList with
  | '-' :: rest => (true, rest)
  | '+' :: rest => (false, rest)
  | rest => (false, rest)

/-- An integer written in decimal digits of any script, or nothing where the text is no integer or
has too many digits. -/
def readInteger? (s : String) : Option Int :=
  let (negative, digits) := cutSign s
  match readGroups digits with
  | none => none
  | some ds =>
    if digitLimit < ds.length then none
    else
      let n : Nat := ds.foldl (fun n d ↦ 10 * n + d) 0
      some (if negative then -(n : Int) else (n : Int))

/-- The number of digits in front, where these are too many to be read, whatever follows them. -/
def excessDigits? (s : String) : Option Nat := do
  let digits := (cutSign s).2.takeWhile fun c ↦ c == '_' || (digitValue? c).isSome
  let ds ← readGroups digits
  if digitLimit < ds.length then some ds.length else none

end RevisionGraph.Text
