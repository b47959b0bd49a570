import RevisionGraph.Number.Operations

/-!
# Binary floating point numbers of 64 bits

A `Binary64` is its 64 bits.  `isNegative` is their sign and `magnitude` the rest: either
`mantissa · 2 ^ exponent`, an infinity or not-a-number.

* **Reading.**  `ofDecimal` gives the number nearest to `digits · 10 ^ exponent`, a tie going to
  the even mantissa; too large a value becomes infinite.
* **Rounding.**  `roundDiv` divides natural numbers to the nearest, ties to even.
* **Comparison.**  `equals` is numeric: the two zeros are equal.  Not-a-number equals itself here,
  because every document shares one such value.
-/

set_option autoImplicit false

namespace RevisionGraph

/-- A floating point number, by its bits. -/
structure Binary64 where
  bits : UInt64
  deriving DecidableEq, Repr, Inhabited

/-- The quotient of two natural numbers rounded to the nearest, ties to even. -/
def roundDiv (num den : Nat) : Nat :=
  let q := num / den
  let twice := 2 * (num % den)
  if den < twice || (twice == den && q % 2 == 1) then q + 1 else q

namespace Binary64

/-! ## The parts of a number -/

/-- A floating point number without its sign. -/
inductive Magnitude where
  | finite (mantissa : Nat) (exponent : Int)
  | infinite
  | notANumber
  deriving DecidableEq, Repr

/-- The sign bit is set. -/
def isNegative (x : Binary64) : Bool := x.bits >>> 63 == 1

/-- The magnitude `mantissa · 2 ^ exponent`; the exponent is at least -1074. -/
def magnitude (x : Binary64) : Magnitude :=
  let biased : Nat := (x.bits.toNat / 2 ^ 52) % 2 ^ 11
  let fraction : Nat := x.bits.toNat % 2 ^ 52
  if biased = 2047 then if fraction = 0 then .infinite else .notANumber
  else if biased = 0 then .finite fraction (-1074)
  else .finite (2 ^ 52 + fraction) ((biased : Int) - 1075)

/-- Puts a sign before the bits of a magnitude. -/
def withSign (negative : Bool) (bits : Nat) : Binary64 :=
  ⟨UInt64.ofNat (if negative then 2 ^ 63 + bits else bits)⟩

/-- The infinity of a sign. -/
def infinity (negative : Bool) : Binary64 := withSign negative (2047 * 2 ^ 52)

/-- The quiet bits that stand for no number. -/
def notANumber : Binary64 := ⟨UInt64.ofNat (2047 * 2 ^ 52 + 2 ^ 51)⟩

/-- Positive zero. -/
def zero : Binary64 := ⟨0⟩

/-- The number one. -/
def one : Binary64 := ⟨UInt64.ofNat (1023 * 2 ^ 52)⟩

/-! ## The nearest number -/

/-- The bits of the number nearest to `num / den`, where `q` is the exponent of the last place. -/
def nearestBits (num den : Nat) (q : Int) : Nat :=
  let m := if 0 ≤ q then roundDiv num (den * 2 ^ q.toNat) else roundDiv (num * 2 ^ (-q).toNat) den
  -- a mantissa that rounds up to the next power of two carries into the exponent by itself
  if m < 2 ^ 52 then m else min (2047 * 2 ^ 52) ((q + 1075).toNat * 2 ^ 52 + (m - 2 ^ 52))

/-- The number nearest to a quotient of natural numbers. -/
def ofQuotient (negative : Bool) (num den : Nat) : Binary64 :=
  if num = 0 then withSign negative 0
  else
    -- the quotient lies between 2 ^ (e - 1) and 2 ^ (e + 1)
    let e : Int := (num.log2 : Int) - den.log2
    let atLeast := if 0 ≤ e then den * 2 ^ e.toNat ≤ num else den ≤ num * 2 ^ (-e).toNat
    let top := if atLeast then e else e - 1
    withSign negative (nearestBits num den (max (-1074) (top - 52)))

/-- The number nearest to `digits · 10 ^ exponent`. -/
def ofDecimal (negative : Bool) (digits : Nat) (exponent : Int) : Binary64 :=
  let places : Int := (toString digits).length + exponent
  if digits = 0 then withSign negative 0
  else if 310 < places then infinity negative
  else if places < -330 then withSign negative 0
  else if 0 ≤ exponent then ofQuotient negative (digits * 10 ^ exponent.toNat) 1
  else ofQuotient negative digits (10 ^ (-exponent).toNat)

/-- The number nearest to an integer. -/
def ofInt (i : Int) : Binary64 := ofQuotient (i < 0) i.natAbs 1

/-! ## Comparison -/

/-- The value as a fraction: numerator and a positive denominator. -/
def toFraction? (x : Binary64) : Option (Int × Nat) :=
  match x.magnitude with
  | .finite m q =>
    let signed : Int := if x.isNegative then -(m : Int) else m
    some (if 0 ≤ q then (signed * 2 ^ q.toNat, 1) else (signed, 2 ^ (-q).toNat))
  | _ => none

/-- The numbers are equal; what is no number is equal to itself. -/
def equals (x y : Binary64) : Bool :=
  match x.toFraction?, y.toFraction? with
  | some (a, b), some (c, d) => a * d == c * b
  | none, none => x.magnitude == y.magnitude &&
      (x.magnitude == .notANumber || x.isNegative == y.isNegative)
  | _, _ => false

/-- The number is the integer. -/
def equalsInt (x : Binary64) (i : Int) : Bool :=
  match x.toFraction? with
  | some (a, b) => a == i * b
  | none => false

/-- The integer that the number is, if it is one. -/
def toInt? (x : Binary64) : Option Int :=
  match x.toFraction? with
  | some (a, b) => if a % b == 0 then some (a / b) else none
  | none => none

/-- Both numbers are finite and the first is smaller, or an infinity decides. -/
def less (x y : Binary64) : Bool :=
  match x.magnitude, y.magnitude with
  | .notANumber, _ => false
  | _, .notANumber => false
  | .infinite, .infinite => x.isNegative && !y.isNegative
  | .infinite, _ => x.isNegative
  | _, .infinite => !y.isNegative
  | _, _ => match x.toFraction?, y.toFraction? with
    | some (a, b), some (c, d) => a * d < c * b
    | _, _ => false

end Binary64

end RevisionGraph
