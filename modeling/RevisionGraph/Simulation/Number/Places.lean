import RevisionGraph.Number.Decimal

/-!
# Decimal texts with a number of places

* **Fixed.**  `fixed` rounds a quotient to so many places behind the point.
* **Scientific.**  `scientific` rounds it to so many places behind its first digit and writes the
  power of ten.
* **General.**  `general` chooses between the two by the size of the number.

`length_leadingZeros` says that a text gets the length that a padding asks for.
-/

set_option autoImplicit false

namespace RevisionGraph.Places

/-- Zeros before digits, up to a length. -/
def leadingZeros (length : Nat) (digits : List Char) : List Char :=
  List.replicate (length - digits.length) '0' ++ digits

theorem length_leadingZeros (length : Nat) (digits : List Char) :
    (leadingZeros length digits).length = max length digits.length := by
  simp [leadingZeros]
  omega

/-- Digits with a point before the last so many; a point before none shows only if it is asked
for. -/
def pointed (places : Nat) (point : Bool) (digits : List Char) : List Char :=
  let all := leadingZeros (places + 1) digits
  let whole := all.take (all.length - places)
  if places = 0 && !point then whole else whole ++ '.' :: all.drop (all.length - places)

/-- The quotient times a power of ten, rounded. -/
def scaled (num den : Nat) (power : Int) : Nat :=
  roundDiv (num * 10 ^ power.toNat) (den * 10 ^ (-power).toNat)

/-- A fraction with a fixed number of decimal places. -/
def fixed (point : Bool) (num den places : Nat) : List Char :=
  pointed places point (toString (scaled num den places)).toList

/-- The digits of a quotient, one before the point and so many behind it, and its power of ten. -/
def digitsAndPower (num den places : Nat) : Nat × Int :=
  if num = 0 then (0, 0)
  else
    let power := decimalTop num den - 1
    let digits := scaled num den (places - power)
    -- rounding up to the next power of ten gives one digit too many
    if digits = 10 ^ (places + 1) then (10 ^ places, power + 1) else (digits, power)

/-- Digits and a power of ten. -/
def scientificOf (mantissa : List Char) (power : Int) : List Char :=
  mantissa ++ 'e' :: (if power < 0 then '-' else '+') ::
    leadingZeros 2 (toString power.natAbs).toList

/-- A fraction as digits and a power of ten. -/
def scientific (point : Bool) (num den places : Nat) : List Char :=
  let (digits, power) := digitsAndPower num den places
  scientificOf (pointed places point (toString digits).toList) power

/-- Drops the zeros at the end of a fraction, and a point that nothing follows. -/
def withoutTrailingZeros (cs : List Char) : List Char :=
  if !cs.contains '.' then cs
  else
    let kept := (dropTrailingZeros cs).reverse
    (if kept.head? = some '.' then kept.drop 1 else kept).reverse

/-- The shorter of both forms with so many digits that count; zeros at the end stay only if they are
asked for. -/
def general (zeros : Bool) (num den significant : Nat) : List Char :=
  let places := max 1 significant - 1
  let (digits, power) := digitsAndPower num den places
  let trim (cs : List Char) := if zeros then cs else withoutTrailingZeros cs
  if -4 ≤ power && power ≤ places then trim (fixed zeros num den (places - power).toNat)
  else scientificOf (trim (pointed places zeros (toString digits).toList)) power

end RevisionGraph.Places
