import RevisionGraph.Number.Binary64

/-!
# Decimal texts of binary numbers

* **Shortest digits.**  `shortestDigits` gives the fewest digits whose value reads back as the
  same number: for one, two, … seventeen digits it looks at the two neighbours of the number on
  that decimal grid and takes the first grid with a hit, of two hits the nearer one.
* **Layout.**  `DecimalLayout` says where positional notation ends and how an exponent is written;
  `numberLayout` is the layout of documents and messages.
* **Whole numbers.**  `roundedText` writes the nearest integer.
-/

set_option autoImplicit false

namespace RevisionGraph

/-! ## The fewest digits -/

/-- The numbers that read back as `num / den`, as `low`, `high` over the same denominator, and
whether the ends are among them. -/
structure ReadBackInterval where
  low : Nat
  value : Nat
  high : Nat
  den : Nat
  closed : Bool

/-- The interval around `mantissa · 2 ^ exponent`.  Half a unit on both sides, a quarter below a
power of two. -/
def readBackInterval (mantissa : Nat) (exponent : Int) : ReadBackInterval :=
  let scale := 2 ^ exponent.toNat
  let below := if mantissa = 2 ^ 52 && -1074 < exponent then 1 else 2
  { low := (4 * mantissa - below) * scale
    value := 4 * mantissa * scale
    high := (4 * mantissa + 2) * scale
    den := 4 * 2 ^ (-exponent).toNat
    closed := mantissa % 2 == 0 }

/-- The grid point `n · 10 ^ place` lies in the interval. -/
def ReadBackInterval.holds (v : ReadBackInterval) (n : Nat) (place : Int) : Bool :=
  let point := n * 10 ^ place.toNat * v.den
  let unit := 10 ^ (-place).toNat
  if v.closed then v.low * unit ≤ point && point ≤ v.high * unit
  else v.low * unit < point && point < v.high * unit

/-- The nearer of the two neighbours on the grid of spacing `10 ^ place` that lie in the interval;
of two equally near ones the even one. -/
def ReadBackInterval.hit? (v : ReadBackInterval) (place : Int) : Option Nat :=
  let num := v.value * 10 ^ (-place).toNat
  let den := v.den * 10 ^ place.toNat
  let f := num / den
  let nearest := roundDiv num den
  let other := if nearest = f then f + 1 else f
  if 0 < nearest && v.holds nearest place then some nearest
  else if 0 < other && v.holds other place then some other
  else none

/-- Tries grids with more and more digits, `top` being the place above the leading digit. -/
def firstHit (v : ReadBackInterval) (top : Int) : Nat → Nat → Nat × Int
  | 0, digits => (v.value * 10 ^ (digits - top).toNat / v.den, top - digits)
  | more + 1, digits =>
    match v.hit? (top - digits) with
    | some n => (n, top - digits)
    | none => firstHit v top more (digits + 1)

/-- The place `p` with `10 ^ (p - 1) ≤ num / den < 10 ^ p`. -/
def decimalTop (num den : Nat) : Int :=
  let guess : Int := ((toString num).length : Int) - (toString den).length
  let reached := if 0 ≤ guess then den * 10 ^ guess.toNat ≤ num else den ≤ num * 10 ^ (-guess).toNat
  if reached then guess + 1 else guess

/-- The fewest digits that read back as `mantissa · 2 ^ exponent`, with the power of ten of the
last of them. -/
def shortestDigits (mantissa : Nat) (exponent : Int) : Nat × Int :=
  let v := readBackInterval mantissa exponent
  firstHit v (decimalTop v.value v.den) 17 1

/-! ## Layout -/

/-- How decimal digits are laid out. -/
structure DecimalLayout where
  /-- the least decimal exponent written positionally -/
  leastPositional : Int
  /-- the greatest decimal exponent written positionally -/
  greatestPositional : Int
  /-- the least number of digits of an exponent, after its sign -/
  exponentDigits : Nat
  notANumber : String
  infinite : String

/-- Documents and messages write `0.0001` and `9999999999999998.0` positionally, `1e-05` and
`1e+16` with an exponent. -/
def numberLayout : DecimalLayout := ⟨-4, 15, 2, "nan", "inf"⟩

/-- The layout of numbers inside JSON documents. -/
def documentLayout : DecimalLayout := ⟨-4, 15, 2, "NaN", "Infinity"⟩

/-- Drops the zeros at the end of a run of digits. -/
def dropTrailingZeros (ds : List Char) : List Char :=
  (ds.reverse.dropWhile (· == '0')).reverse

/-- Lays out digits whose last one stands for `10 ^ place`. -/
def DecimalLayout.layOut (l : DecimalLayout) (n : Nat) (place : Int) : String :=
  let all := (toString n).toList
  let exponent := place + all.length - 1
  let ds := dropTrailingZeros all
  let text :=
    if exponent < l.leastPositional || l.greatestPositional < exponent then
      let head := ds.take 1 ++ (if 1 < ds.length then '.' :: ds.drop 1 else [])
      let e := (toString exponent.natAbs).toList
      head ++ 'e' :: (if exponent < 0 then '-' else '+') ::
        (List.replicate (l.exponentDigits - e.length) '0' ++ e)
    else if exponent < 0 then
      '0' :: '.' :: (List.replicate (exponent.natAbs - 1) '0' ++ ds)
    else
      let whole := exponent.toNat + 1
      let padded := ds ++ List.replicate (whole - ds.length) '0'
      let fraction := padded.drop whole
      padded.take whole ++ '.' :: (if fraction.isEmpty then ['0'] else fraction)
  String.ofList text

/-- The shortest text of a number in a layout. -/
def DecimalLayout.write (l : DecimalLayout) (x : Binary64) : String :=
  let sign := if x.isNegative then "-" else ""
  match x.magnitude with
  | .notANumber => l.notANumber
  | .infinite => sign ++ l.infinite
  | .finite 0 _ => sign ++ "0.0"
  | .finite m q =>
    let (n, place) := shortestDigits m q
    sign ++ l.layOut n place

/-- The nearest integer in decimal, ties to even. -/
def Binary64.roundedText (x : Binary64) : String :=
  let sign := if x.isNegative then "-" else ""
  match x.magnitude with
  | .notANumber => numberLayout.notANumber
  | .infinite => sign ++ numberLayout.infinite
  | .finite m q =>
    sign ++ toString (if 0 ≤ q then m * 2 ^ q.toNat else roundDiv m (2 ^ (-q).toNat))

end RevisionGraph
