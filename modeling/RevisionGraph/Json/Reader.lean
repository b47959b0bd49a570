import RevisionGraph.Json.Basic
import RevisionGraph.OrderedMap
import RevisionGraph.Text.Digits
import RevisionGraph.Text.Quoted

/-!
# Reading JSON

`Json.read` reads a document from text.  It accepts JSON with three more numbers, `NaN`,
`Infinity` and `-Infinity`; only space, tab, line feed and carriage return separate tokens.

* **Characters.**  A text is made of whole characters.  A document can escape one half of a
  surrogate pair without the other, and then it holds no such text.  These documents, of which
  `escapesHalf` tells, are out of scope: they are read with the replacement character there.
* **Integers.**  A number without fraction and exponent is an integer of any size up to
  `Text.digitLimit` digits; a longer one stops the reading.
* **Repeated keys.**  The last value counts, in the place of the first.
* **Errors.**  A `Stop` says what is wrong and how many characters were left there; `Misread`
  turns that into a position, a line and a column.

Every reader takes the characters that are left and gives back a value and what follows it.  The
readers of nested values take a bound on the number of steps, which `read` computes from the
length of the text.
-/

set_option autoImplicit false

namespace RevisionGraph.Json

/-! ## What stops reading -/

/-- What is wrong with a text that is no document. -/
inductive Defect where
  | byteOrderMark
  | expectedValue
  | extraData
  | expectedKey
  | expectedColon
  | expectedComma
  | unterminatedText
  | controlCharacter
  | unknownEscape
  | codeEscape
  deriving DecidableEq, Repr

/-- How a message names the defect. -/
def Defect.message : Defect → String
  | .byteOrderMark => "Unexpected UTF-8 BOM (decode using utf-8-sig)"
  | .expectedValue => "Expecting value"
  | .extraData => "Extra data"
  | .expectedKey => "Expecting property name enclosed in double quotes"
  | .expectedColon => "Expecting ':' delimiter"
  | .expectedComma => "Expecting ',' delimiter"
  | .unterminatedText => "Unterminated string starting at"
  | .controlCharacter => "Invalid control character at"
  | .unknownEscape => "Invalid \\escape"
  | .codeEscape => "Invalid \\uXXXX escape"

/-- Why reading stopped; `left` counts the characters from the defect to the end of the text. -/
inductive Stop where
  | malformed (defect : Defect) (left : Nat)
  | tooManyDigits (count : Nat)
  deriving DecidableEq, Repr

/-- A value and the characters after it, or what stopped the reading. -/
abbrev Reading (α : Type) := Except Stop (α × List Char)

/-! ## Tokens -/

/-- Blanks between tokens. -/
def isSpace (c : Char) : Bool := c == ' ' || c == '\t' || c == '\n' || c == '\r'

/-- Skips the white space at the start. -/
def skipSpace (cs : List Char) : List Char := cs.dropWhile isSpace

/-- The value of four hexadecimal digits. -/
def readCode? (a b c d : Char) : Option Nat := do
  let high := (← Text.hexValue? a) * 16 + (← Text.hexValue? b)
  return high * 256 + (← Text.hexValue? c) * 16 + (← Text.hexValue? d)

/-- The character that a letter after a backslash stands for. -/
def shortEscape? (c : Char) : Option Char :=
  if c == Text.doubleQuote || c == '\\' || c == '/' then some c
  else if c == 'b' then some '\x08'
  else if c == 'f' then some '\x0c'
  else if c == 'n' then some '\n'
  else if c == 'r' then some '\r'
  else if c == 't' then some '\t'
  else none

/-- Reads the code units of a text up to its closing quote; `opening` counts the characters from
the opening quote to the end.  Four digits of a code are never the end of a text: without a
character after them they are no code. -/
def readUnits (opening : Nat) : List Char → Reading (List Nat)
  | [] => .error (.malformed .unterminatedText opening)
  | '\\' :: 'u' :: a :: b :: c :: d :: e :: rest =>
    match readCode? a b c d with
    | none => .error (.malformed .codeEscape (rest.length + 6))
    | some u => match readUnits opening (e :: rest) with
      | .ok (us, after) => .ok (u :: us, after)
      | .error stop => .error stop
  | '\\' :: c :: rest =>
    if c = 'u' then .error (.malformed .codeEscape (rest.length + 1))
    else match shortEscape? c with
      | none => .error (.malformed .unknownEscape (rest.length + 2))
      | some x => match readUnits opening rest with
        | .ok (us, after) => .ok (x.toNat :: us, after)
        | .error stop => .error stop
  | c :: rest =>
    if c = Text.doubleQuote then .ok ([], rest)
    else if c = '\\' then .error (.malformed .unterminatedText opening)
    else if c.toNat < 0x20 then .error (.malformed .controlCharacter (rest.length + 1))
    else match readUnits opening rest with
      | .ok (us, after) => .ok (c.toNat :: us, after)
      | .error stop => .error stop

/-- Joins the two halves of a surrogate pair; a half on its own has no character. -/
def joinUnits : List Nat → List Char
  | [] => []
  | [u] => [if 0xd800 ≤ u && u ≤ 0xdfff then '\ufffd' else Char.ofNat u]
  | u :: v :: rest =>
    if 0xd800 ≤ u && u ≤ 0xdbff && 0xdc00 ≤ v && v ≤ 0xdfff then
      Char.ofNat (0x10000 + (u - 0xd800) * 0x400 + (v - 0xdc00)) :: joinUnits rest
    else
      (if 0xd800 ≤ u && u ≤ 0xdfff then '\ufffd' else Char.ofNat u) :: joinUnits (v :: rest)

/-- Some half of a character is escaped without the other; `waiting` says that a first half was
escaped just before. -/
def escapesHalf (waiting : Bool) : List Char → Bool
  | [] => waiting
  | '\\' :: 'u' :: a :: b :: c :: d :: rest =>
    match readCode? a b c d with
    | none => true
    | some u =>
      let isSecond := 0xdc00 ≤ u && u ≤ 0xdfff
      if waiting then !isSecond || escapesHalf false rest
      else isSecond || escapesHalf (0xd800 ≤ u && u ≤ 0xdbff) rest
  | '\\' :: _ :: rest => waiting || escapesHalf false rest
  | _ :: rest => waiting || escapesHalf false rest

/-- Reads a text behind its opening quote. -/
def readText (cs : List Char) : Reading String :=
  match readUnits (cs.length + 1) cs with
  | .ok (us, rest) => .ok (String.ofList (joinUnits us), rest)
  | .error stop => .error stop

/-! ## Numbers -/

/-- The digits of a fraction, if a point and a digit are next. -/
def takeFraction : List Char → List Char × List Char
  | '.' :: rest =>
    let digits := rest.takeWhile Char.isDigit
    if digits.isEmpty then ([], '.' :: rest) else (digits, rest.dropWhile Char.isDigit)
  | cs => ([], cs)

/-- The exponent, if a whole one is next. -/
def takeExponent (cs : List Char) : Option Int × List Char :=
  match cs with
  | e :: rest =>
    if e = 'e' ∨ e = 'E' then
      let (negative, body) := match rest with
        | '-' :: more => (true, more)
        | '+' :: more => (false, more)
        | more => (false, more)
      let digits := body.takeWhile Char.isDigit
      if digits.isEmpty then (none, cs)
      else
        let n : Int := Text.readDecimal digits
        (some (if negative then -n else n), body.dropWhile Char.isDigit)
    else (none, cs)
  | [] => (none, [])

/-- The digits before the point: a zero alone, or a run that starts with another digit. -/
def takeWhole : List Char → Option (List Char × List Char)
  | [] => none
  | c :: rest =>
    if c = '0' then some (['0'], rest)
    else if c.isDigit then
      some (c :: rest.takeWhile Char.isDigit, rest.dropWhile Char.isDigit)
    else none

/-- Reads a number behind its sign; `start` counts the characters from the start of the number,
sign included, to the end. -/
def readNumber (start : Nat) (negative : Bool) (cs : List Char) : Reading Json :=
  match takeWhole cs with
  | none => .error (.malformed .expectedValue start)
  | some (whole, rest) =>
    let (fraction, rest) := takeFraction rest
    let (exponent?, rest) := takeExponent rest
    if fraction.isEmpty && exponent?.isNone then
      if Text.digitLimit < whole.length then .error (.tooManyDigits whole.length)
      else
        let n : Int := Text.readDecimal whole
        .ok (.int (if negative then -n else n), rest)
    else
      let e := exponent?.getD 0 - fraction.length
      .ok (.float (.ofDecimal negative (Text.readDecimal (whole ++ fraction)) e), rest)

/-- What follows a word at the front of the characters. -/
def stripWord? (word cs : List Char) : Option (List Char) :=
  if word.isPrefixOf cs then some (cs.drop word.length) else none

/-- The values that are words. -/
def words : List (String × Json) := [
  ("null", .null), ("true", .bool true), ("false", .bool false), ("NaN", .float .notANumber),
  ("Infinity", .float (.infinity false)), ("-Infinity", .float (.infinity true))]

/-- A word and what follows it. -/
def readWord? (cs : List Char) : Option (Json × List Char) :=
  words.findSome? fun w ↦ (stripWord? w.1.toList cs).map fun rest ↦ (w.2, rest)

/-! ## Nested values -/

/-- The members of an object: of equal keys the last value, in the place of the first. -/
def ofMembers (members : List (String × Json)) : Json :=
  .object (OrderedMap.ofList members).entries

mutual

/-- Reads a value that starts here. -/
def readValue : Nat → List Char → Reading Json
  | 0, cs => .error (.malformed .expectedValue cs.length)
  | _ + 1, [] => .error (.malformed .expectedValue 0)
  | fuel + 1, c :: rest =>
    if c = Text.doubleQuote then
      match readText rest with
      | .ok (s, after) => .ok (.text s, after)
      | .error stop => .error stop
    else if c = '[' then
      match skipSpace rest with
      | ']' :: after => .ok (.array [], after)
      | start => match readItems fuel start with
        | .ok (items, after) => .ok (.array items, after)
        | .error stop => .error stop
    else if c = '\x7b' then
      match skipSpace rest with
      | '\x7d' :: after => .ok (.object [], after)
      | start => match readMembers fuel start with
        | .ok (members, after) => .ok (ofMembers members, after)
        | .error stop => .error stop
    else match readWord? (c :: rest) with
      | some found => .ok found
      | none =>
        if c = '-' then readNumber (rest.length + 1) true rest
        else readNumber (rest.length + 1) false (c :: rest)

/-- Reads one item and those after it, up to the closing bracket. -/
def readItems : Nat → List Char → Reading (List Json)
  | 0, cs => .error (.malformed .expectedValue cs.length)
  | fuel + 1, cs =>
    match readValue fuel cs with
    | .error stop => .error stop
    | .ok (item, rest) =>
      match skipSpace rest with
      | ']' :: after => .ok ([item], after)
      | ',' :: more => match readItems fuel (skipSpace more) with
        | .ok (items, after) => .ok (item :: items, after)
        | .error stop => .error stop
      | other => .error (.malformed .expectedComma other.length)

/-- Reads one member and those after it, up to the closing brace. -/
def readMembers : Nat → List Char → Reading (List (String × Json))
  | 0, cs => .error (.malformed .expectedKey cs.length)
  | _ + 1, [] => .error (.malformed .expectedKey 0)
  | fuel + 1, c :: rest =>
    if c = Text.doubleQuote then
      match readText rest with
      | .error stop => .error stop
      | .ok (key, rest) =>
        match skipSpace rest with
        | ':' :: more =>
          match readValue fuel (skipSpace more) with
          | .error stop => .error stop
          | .ok (value, rest) =>
            match skipSpace rest with
            | '\x7d' :: after => .ok ([(key, value)], after)
            | ',' :: more => match readMembers fuel (skipSpace more) with
              | .ok (members, after) => .ok ((key, value) :: members, after)
              | .error stop => .error stop
            | other => .error (.malformed .expectedComma other.length)
        | other => .error (.malformed .expectedColon other.length)
    else .error (.malformed .expectedKey (rest.length + 1))

end

/-! ## Documents -/

/-- Reads a whole document. -/
def readChars (cs : List Char) : Except Stop Json :=
  match readValue (2 * cs.length + 2) (skipSpace cs) with
  | .error stop => .error stop
  | .ok (value, rest) =>
    match skipSpace rest with
    | [] => .ok value
    | other => .error (.malformed .extraData other.length)

/-- Why a text is not read, with the place in the text. -/
inductive Misread where
  | malformed (defect : Defect) (line column position : Nat)
  | tooManyDigits (count : Nat)
  deriving DecidableEq, Repr

/-- The place of a defect in the text: lines and columns count from 1, positions from 0. -/
def Stop.locate (cs : List Char) : Stop → Misread
  | .tooManyDigits count => .tooManyDigits count
  | .malformed defect left =>
    let before := cs.take (cs.length - left)
    let column := (before.reverse.takeWhile (· != '\n')).length + 1
    .malformed defect (before.count '\n' + 1) column before.length

/-- Where reading stopped, in words. -/
def place (line column position : Nat) : String :=
  s!"line {line} column {column} (char {position})"

/-- Reads a document that starts with no byte order mark. -/
def readUnmarked (s : String) : Except Misread Json :=
  match readChars s.toList with
  | .ok value => .ok value
  | .error stop => .error (stop.locate s.toList)

/-- Reads a document; a byte order mark is not part of one. -/
def read (s : String) : Except Misread Json :=
  match s.toList with
  | '\ufeff' :: _ => .error (.malformed .byteOrderMark 1 1 0)
  | _ => readUnmarked s

end RevisionGraph.Json
