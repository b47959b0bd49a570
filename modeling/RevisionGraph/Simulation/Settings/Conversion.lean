import RevisionGraph.Json.Basic
import RevisionGraph.Text.Digits
import RevisionGraph.Text.LetterCase

/-!
# Converting configured values

A configured value is a value of a document; what comes from a variable is a text.  Each converter
gives a value of its kind or the name of the rule that was broken.

* **Truth values** are written with one of a few words, in any letter case, or are 0 and 1.
* **Integers** may have blanks around them, one sign, zeros in front, single underscores between
  digits and a fraction of zeros.  The sign may also follow zeros, if it is a minus sign.  There is
  a limit on the digits; a text that begins with too many of them is a size error, and one that has
  too many of them when it is cleaned is no integer.
* **Numbers** are decimal, with an exponent or not, or one of the words for what is not finite.
  There may be blanks around them or single underscores inside them, but not both.
* **Machine words.**  A number with a fraction part is an integer only if it fits a machine word;
  an integer that is no machine word is never a truth value.
-/

set_option autoImplicit false

namespace RevisionGraph.Settings

/-- A converted value, or the name of the rule that the value broke. -/
abbrev Conversion (α : Type) := Except String α

/-! ## Truth values -/

/-- The words for yes. -/
def trueWords : List String := ["1", "on", "t", "true", "y", "yes"]

/-- The words for no. -/
def falseWords : List String := ["0", "off", "f", "false", "n", "no"]

/-- Machine words lie below this and not below its negative. -/
def wordBound : Int := 2 ^ 63

/-- An integer as a truth value. -/
def truthOfInt (i : Int) : Conversion Bool :=
  if i = 0 then .ok false else if i = 1 then .ok true else .error "bool_parsing"

/-- The integer that a number with a fraction part is.  The least machine word is left out. -/
def wordOf? (x : Binary64) : Option Int :=
  x.toInt?.filter fun i ↦ -wordBound < i && i < wordBound

/-- A value as a truth value. -/
def truth : Json → Conversion Bool
  | .bool b => .ok b
  | .int i => if -wordBound ≤ i && i < wordBound then truthOfInt i else .error "bool_type"
  | .float x => match wordOf? x with
    | some i => truthOfInt i
    | none => .error "bool_type"
  | .text s =>
    let word := Text.lower s
    if trueWords.contains word then .ok true
    else if falseWords.contains word then .ok false
    else .error "bool_parsing"
  | _ => .error "bool_type"

/-! ## Integers -/

/-- A number as documents write integers: no zero leads it. -/
def plainInteger? (cs : List Char) : Option Int :=
  let (negative, digits) := match cs with
    | '-' :: rest => (true, rest)
    | rest => (false, rest)
  match digits with
  | '0' :: _ :: _ => none
  | _ =>
    if Text.isDecimal digits then
      let n : Nat := Text.readDecimal digits
      some (if negative then -n else n)
    else none

/-- Drops zeros and underscores in front, up to a minus sign or the first other digit; the last of
them stays before a point and at the end. -/
def dropLeadingZeros (cs : List Char) : Option (List Char) :=
  match cs with
  | '0' :: rest =>
    let zeros := rest.takeWhile fun c ↦ c == '0' || c == '_'
    let last := zeros.getLast?.getD '0'
    match rest.drop zeros.length with
    | [] => some [last]
    | '.' :: more => some (last :: '.' :: more)
    | c :: more => if c.isDigit || c == '-' then some (c :: more) else none
  | c :: _ => if c.isDigit || c == '-' then some cs else none
  | [] => none

/-- Drops a point with zeros and nothing else behind it. -/
def dropZeroFraction (cs : List Char) : List Char :=
  let whole := cs.takeWhile (· != '.')
  let fraction := cs.drop (whole.length + 1)
  if !fraction.isEmpty && fraction.all (· == '0') then whole else cs

/-- No underscore stands next to another, at the front or at the end. -/
def areSingle (cs : List Char) : Bool :=
  cs.head? != some '_' && cs.getLast? != some '_' &&
    (cs.zip cs.tail).all fun p ↦ p != ('_', '_')

/-- Drops underscores that stand one at a time inside a text; there are to be no others. -/
def dropUnderscores (cs : List Char) : Option (List Char) :=
  if areSingle cs then some (cs.filter (· != '_')) else none

/-- The plain form of a number that was written freely, without the sign in front of it. -/
def cleanUnsigned? (cs : List Char) : Option (List Char) := do
  dropUnderscores (dropZeroFraction (← dropLeadingZeros cs))

/-- The plain form of an integer that was written freely. -/
def cleanInteger? (cs : List Char) : Option (List Char) :=
  match Text.trimBy Text.isIntegerPadding cs with
  | '+' :: '-' :: _ => none
  | '+' :: rest => cleanUnsigned? rest
  | '-' :: rest => (cleanUnsigned? rest).map ('-' :: ·)
  | rest => cleanUnsigned? rest

/-- An integer begins here, as documents write it, and it has more digits than are read. -/
def isTooLong (cs : List Char) : Bool :=
  let digits := if cs.head? = some '-' then cs.tail else cs
  digits.head? != some '0' && Text.digitLimit < (digits.takeWhile Char.isDigit).length

/-- An integer that was written freely.  One that is too long is none. -/
def freeInteger? (cs : List Char) : Option Int := do
  let plain ← cleanInteger? cs
  if isTooLong plain then none else plainInteger? plain

/-- A value as an integer. -/
def integer : Json → Conversion Int
  | .int i => .ok i
  | .bool b => .ok (if b then 1 else 0)
  | .float x => match x.toFraction?, x.toInt?, wordOf? x with
    | none, _, _ => .error "finite_number"
    | _, none, _ => .error "int_from_float"
    | _, _, some i => .ok i
    | _, _, none => .error "int_parsing_size"
  | .text s =>
    if isTooLong s.toList then .error "int_parsing_size"
    else match plainInteger? s.toList <|> freeInteger? s.toList with
      | some i => .ok i
      | none => .error "int_parsing"
  | _ => .error "int_type"

/-! ## Numbers -/

/-- A number without its sign. -/
def unsignedNumber? (negative : Bool) (cs : List Char) : Option Binary64 :=
  let word := (String.ofList cs).toLower
  if word = "inf" ∨ word = "infinity" then some (.infinity negative)
  else if word = "nan" then some .notANumber
  else
    let whole := cs.takeWhile Char.isDigit
    let (fraction, rest) := match cs.drop whole.length with
      | '.' :: rest => (rest.takeWhile Char.isDigit, rest.dropWhile Char.isDigit)
      | rest => ([], rest)
    let exponent : Option Int := match rest with
      | [] => some 0
      | e :: rest =>
        if e = 'e' ∨ e = 'E' then
          let (down, digits) := match rest with
            | '-' :: digits => (true, digits)
            | '+' :: digits => (false, digits)
            | digits => (false, digits)
          if Text.isDecimal digits then
            let n : Nat := Text.readDecimal digits
            some (if down then -n else n)
          else none
        else none
    match exponent with
    | none => none
    | some e =>
      let digits := whole ++ fraction
      if digits.isEmpty then none
      else some (.ofDecimal negative (Text.readDecimal digits) (e - fraction.length))

/-- The number that characters write, if they do. -/
def number? (cs : List Char) : Option Binary64 :=
  match cs with
  | '-' :: rest => unsignedNumber? true rest
  | '+' :: rest => unsignedNumber? false rest
  | rest => unsignedNumber? false rest

/-- A value as a number. -/
def number : Json → Conversion Binary64
  | .float x => .ok x
  | .int i => if (Binary64.ofInt i).toFraction?.isSome then .ok (.ofInt i) else .error "float_type"
  | .bool b => .ok (if b then .one else .zero)
  | .text s =>
    let trimmed := Text.trimBy Text.isIntegerPadding s.toList
    match number? trimmed <|> (dropUnderscores s.toList).bind number? with
    | some x => .ok x
    | none => .error "float_parsing"
  | _ => .error "float_type"

/-! ## Texts -/

/-- A value as a text. -/
def text : Json → Conversion String
  | .text s => .ok s
  | _ => .error "string_type"

/-- A text or nothing. -/
def optionalText : Json → Conversion (Option String)
  | .null => .ok none
  | .text s => .ok (some s)
  | _ => .error "string_type"

end RevisionGraph.Settings
