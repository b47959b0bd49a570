import RevisionGraph.Simulation.Number.Places
import RevisionGraph.Text.Digits
import RevisionGraph.Simulation.Text.Octets

/-!
# Formatted printing

`Printf.format` writes arguments by a format of literal characters, escapes after a backslash and
conversions after a percent sign.  The format is used again as long as arguments are left, and
missing arguments are empty.
-/

set_option autoImplicit false

namespace RevisionGraph.Shell.Printf

/-! ## Escapes -/

/-- The character is an octal digit. -/
def isOctal (c : Char) : Bool := '0' ≤ c && c ≤ '7'

/-- The number that octal digits write. -/
def octalValue (cs : List Char) : Nat := Nat.ofDigitChars 8 cs 0

/-- The byte that a letter after a backslash stands for. -/
def letterEscape? (c : Char) : Option UInt8 :=
  if c = 'a' then some 7
  else if c = 'b' then some 8
  else if c = 'e' then some 27
  else if c = 'f' then some 12
  else if c = 'n' then some 10
  else if c = 'r' then some 13
  else if c = 't' then some 9
  else if c = 'v' then some 11
  else if c = '\\' then some 92
  else none

/-- The bytes of an escape behind its backslash, of at most `width` octal digits. -/
def takeEscape (width : Nat) (cs : List Char) : Text.Bytes × List Char :=
  let digits := (cs.take width).takeWhile isOctal
  if !digits.isEmpty then ([UInt8.ofNat (octalValue digits)], cs.drop digits.length)
  else match cs with
    | c :: rest => match letterEscape? c with
      | some b => ([b], rest)
      | none => (92 :: Text.Octets.bytesOf c, rest)
    | [] => ([92], [])

/-- A text with its escapes read, as `echo` prints it: a zero may stand before three octal digits
and a `c` ends the text.  The flag says that the text went to its end. -/
def expandFor : Nat → List Char → Text.Bytes × Bool
  | 0, _ => ([], true)
  | _ + 1, [] => ([], true)
  | _ + 1, '\\' :: 'c' :: _ => ([], false)
  | n + 1, '\\' :: '0' :: rest =>
    let digits := (rest.take 3).takeWhile isOctal
    let (bytes, whole) := expandFor n (rest.drop digits.length)
    (UInt8.ofNat (octalValue digits) :: bytes, whole)
  | n + 1, '\\' :: rest =>
    let (escape, rest) := takeEscape 3 rest
    let (bytes, whole) := expandFor n rest
    (escape ++ bytes, whole)
  | n + 1, c :: rest =>
    let (bytes, whole) := expandFor n rest
    (Text.Octets.bytesOf c ++ bytes, whole)

/-- What escapes in a text stand for, and whether one of them ends the output. -/
def expand (s : String) : Text.Bytes × Bool := expandFor (s.length + 1) s.toList

/-! ## Numbers -/

/-- A number that stands at the start of an argument, and what is wrong with the argument. -/
structure Reading (α : Type) where
  value : α
  problem : Option String

/-- What is wrong with an argument of which a part was left. -/
def leftover (argument : String) (rest : List Char) : Option String :=
  if rest.isEmpty then none
  else if rest = argument.toList then some "expected numeric value"
  else some "not completely converted"

/-- What is said of a number that is too large. -/
def outOfRange : String := "Numerical result out of range"

/-- A sign and what follows it, behind blanks. -/
def takeSign (s : String) : Bool × List Char :=
  match s.toList.dropWhile fun c ↦ c = ' ' ∨ c = '\t' ∨ c = '\n' with
  | '-' :: rest => (true, rest)
  | '+' :: rest => (false, rest)
  | rest => (false, rest)

/-- The integer at the start of an argument, in decimal, octal or hexadecimal, and what follows
it. -/
def takeNumber (s : String) : Int × List Char :=
  let (negative, body) := takeSign s
  let take (digits : List Char → List Char) (value : List Char → Nat) (cs : List Char) :
      Nat × List Char :=
    (value (digits cs), cs.drop (digits cs).length)
  let hexadecimal (x : Char) (rest : List Char) : Nat × List Char :=
    if (Text.takeHex rest).isEmpty then (0, x :: rest) else take Text.takeHex Text.readHex rest
  let (n, rest) := match body with
    | '0' :: 'x' :: rest => hexadecimal 'x' rest
    | '0' :: 'X' :: rest => hexadecimal 'X' rest
    | '0' :: rest => take (List.takeWhile isOctal) octalValue rest
    | rest => take (List.takeWhile Char.isDigit) Text.readDecimal rest
  -- a sign with no digit behind it is no part of a number
  (if negative then -n else n, if rest.length = body.length then s.toList else rest)

/-- The code of the byte behind a quote. -/
def quotedCode? (s : String) : Option Nat :=
  match s.toList with
  | '\x27' :: rest | '\x22' :: rest =>
    some (((Text.Octets.toBytes (String.ofList rest)).headD 0).toNat)
  | _ => none

/-- The integer of an argument, which is kept within 64 bits. -/
def readInteger (signed : Bool) (s : String) : Reading Int :=
  match quotedCode? s with
  | some n => ⟨n, none⟩
  | none =>
    let (i, rest) := takeNumber s
    let (least, greatest) : Int × Int :=
      if signed then (-2 ^ 63, 2 ^ 63 - 1) else (1 - 2 ^ 64, 2 ^ 64 - 1)
    let within : Int := if i < least then (if signed then least else greatest) else min i greatest
    let problem := (leftover s rest).orElse fun _ ↦ if within = i then none else some outOfRange
    ⟨if signed then within else within % 2 ^ 64, problem⟩

/-- The number of an argument with a point and a power of ten, and what follows it. -/
def takeReal (s : String) : Binary64 × List Char :=
  let (negative, body) := takeSign s
  let lower := body.map Char.toLower
  let named (name : String) := name.toList.isPrefixOf lower
  let whole := body.takeWhile Char.isDigit
  let (fraction, rest) := match body.drop whole.length with
    | '.' :: rest => (rest.takeWhile Char.isDigit, rest.dropWhile Char.isDigit)
    | rest => ([], rest)
  if named "infinity" then (.infinity negative, body.drop 8)
  else if named "inf" then (.infinity negative, body.drop 3)
  else if named "nan" then (.notANumber, body.drop 3)
  else if named "0x" then
    let (i, rest) := takeNumber s
    (.ofQuotient negative i.natAbs 1, rest)
  else if whole.isEmpty && fraction.isEmpty then (.zero, s.toList)
  else
    let (power, rest) : Int × List Char := match rest with
      | e :: more =>
        let (below, digits) := match more with
          | '-' :: digits => (true, digits)
          | '+' :: digits => (false, digits)
          | digits => (false, digits)
        let power := digits.takeWhile Char.isDigit
        if e.toLower ≠ 'e' || power.isEmpty then (0, rest)
        else (if below then -(Text.readDecimal power) else Text.readDecimal power,
          digits.drop power.length)
      | [] => (0, [])
    (.ofDecimal negative (Text.readDecimal (whole ++ fraction)) (power - fraction.length), rest)

/-- The real number in an argument. -/
def readReal (s : String) : Reading Binary64 :=
  match quotedCode? s with
  | some n => ⟨.ofInt n, none⟩
  | none =>
    let (x, rest) := takeReal s
    let digits := s.toList.takeWhile fun c ↦ c.toLower ≠ 'e'
    let lost := match x.magnitude with
      | .infinite => digits.any Char.isDigit
      | .finite m _ => m < 2 ^ 52 && digits.any fun c ↦ '1' ≤ c && c ≤ '9'
      | .notANumber => false
    ⟨x, (leftover s rest).orElse fun _ ↦ if lost then some outOfRange else none⟩

/-! ## Conversions -/

/-- How an argument is laid out. -/
structure Directive where
  flags : List Char
  width : Nat
  precision : Option Nat
  conversion : Char

/-- A width or a precision at the start of a directive, which an asterisk takes from the
arguments. -/
def takeMeasure (cs : List Char) (arguments : List String) : Int × List Char × List String :=
  match cs with
  | '*' :: rest => ((readInteger true (arguments.headD "")).value, rest, arguments.drop 1)
  | cs =>
    let digits := cs.takeWhile Char.isDigit
    (Text.readDecimal digits, cs.drop digits.length, arguments)

/-- Reads a directive behind its percent sign; with it comes what is left of the format and of the
arguments. -/
def takeDirective (cs : List Char) (arguments : List String) :
    Except String (Directive × List Char × List String) :=
  let flags := cs.takeWhile fun c ↦ "-+ #0".toList.contains c
  let (width, rest, arguments) := takeMeasure (cs.drop flags.length) arguments
  let (precision, rest, arguments) := match rest with
    | '.' :: rest =>
      let (precision, rest, arguments) := takeMeasure rest arguments
      (if precision < 0 then none else some precision.toNat, rest, arguments)
    | rest => (none, rest, arguments)
  match rest with
  | [] => .error "missing format character"
  | conversion :: rest =>
    if "bcsdiouxXeEfFgG".toList.contains conversion then
      let flags := if width < 0 then '-' :: flags else flags
      .ok (⟨flags, width.natAbs, precision, conversion⟩, rest, arguments)
    else
      let read := '%' :: cs.take (cs.length - rest.length)
      .error (String.ofList read ++ ": invalid directive")

/-- Pads bytes to the width of a directive. -/
def Directive.pad (d : Directive) (bytes : Text.Bytes) : Text.Bytes :=
  let missing := d.width - bytes.length
  if d.flags.contains '-' then bytes ++ List.replicate missing 32
  else List.replicate missing 32 ++ bytes

/-- The sign before a number. -/
def Directive.sign (d : Directive) (negative : Bool) : List Char :=
  if negative then ['-'] else if d.flags.contains '+' then ['+']
  else if d.flags.contains ' ' then [' '] else []

/-- Puts a sign before digits, with the zeros that fill the width if a flag asks for them. -/
def Directive.signed (d : Directive) (fill : Bool) (sign digits : List Char) : Text.Bytes :=
  let zeros := if fill && d.flags.contains '0' && !d.flags.contains '-' then
      d.width - sign.length else 0
  d.pad (Text.Octets.toBytes (String.ofList (sign ++ Places.leadingZeros zeros digits)))

/-- An integer of so many digits at least. -/
def Directive.integer (d : Directive) (sign : List Char) (digits : String) : Text.Bytes :=
  let digits := if d.precision = some 0 ∧ digits = "0" then [] else digits.toList
  d.signed d.precision.isNone sign (Places.leadingZeros (d.precision.getD 1) digits)

/-- A number without a sign in a base, with a mark of the base if a flag asks for it. -/
def Directive.inBase (d : Directive) (n base : Nat) (mark : List Char) : Text.Bytes :=
  let digits := String.ofList (Nat.toDigits base n)
  if n = 0 || !d.flags.contains '#' then d.integer [] digits
  else if base = 8 then
    let digits := Places.leadingZeros (d.precision.getD 1) digits.toList
    d.integer [] (String.ofList (if digits.head? = some '0' then digits else '0' :: digits))
  else d.integer mark digits

/-- Writes a real number. -/
def Directive.real (d : Directive) (x : Binary64) : Text.Bytes :=
  let places := d.precision.getD 6
  let sign := d.sign x.isNegative
  let digits (num den : Nat) : List Char :=
    let marked := d.flags.contains '#'
    if d.conversion = 'f' ∨ d.conversion = 'F' then Places.fixed marked num den places
    else if d.conversion = 'e' ∨ d.conversion = 'E' then Places.scientific marked num den places
    else Places.general marked num den places
  let written (cs : List Char) := if d.conversion.isUpper then cs.map Char.toUpper else cs
  match x.magnitude with
  | .notANumber => d.signed false sign (written "nan".toList)
  | .infinite => d.signed false sign (written "inf".toList)
  | .finite m q => d.signed true sign (written (digits (m * 2 ^ q.toNat) (2 ^ (-q).toNat)))

/-- What a directive writes for an argument. -/
structure Piece where
  bytes : Text.Bytes
  problem : Option String := none
  /-- the printing goes on -/
  goesOn : Bool := true

/-- Writes an argument. -/
def Directive.write (d : Directive) (argument : String) : Piece :=
  let ofText (bytes : Text.Bytes) := d.pad (match d.precision with
    | some p => bytes.take p
    | none => bytes)
  let natural (write : Nat → Text.Bytes) : Piece :=
    let r := readInteger false argument
    ⟨write r.value.toNat, r.problem, true⟩
  if d.conversion = 's' then ⟨ofText (Text.Octets.toBytes argument), none, true⟩
  else if d.conversion = 'b' then
    let (bytes, whole) := expand argument
    ⟨ofText bytes, none, whole⟩
  else if d.conversion = 'c' then ⟨d.pad [(Text.Octets.toBytes argument).headD 0], none, true⟩
  else if d.conversion = 'd' ∨ d.conversion = 'i' then
    let r := readInteger true argument
    ⟨d.integer (d.sign (r.value < 0)) (toString r.value.natAbs), r.problem, true⟩
  else if d.conversion = 'u' then natural fun n ↦ d.integer [] (toString n)
  else if d.conversion = 'o' then natural fun n ↦ d.inBase n 8 []
  else if d.conversion = 'x' then natural fun n ↦ d.inBase n 16 ['0', 'x']
  else if d.conversion = 'X' then natural fun n ↦ (d.inBase n 16 ['0', 'x']).map fun b ↦
    if 97 ≤ b && b ≤ 122 then b - 32 else b
  else
    let r := readReal argument
    ⟨d.real r.value, r.problem, true⟩

/-! ## Formats -/

/-- What a format and its arguments make. -/
structure Printed where
  bytes : Text.Bytes := []
  /-- what is wrong with arguments -/
  problems : List (String × String) := []
  /-- what is wrong with the format, where it ends the printing -/
  fault : Option String := none

/-- What one pass over a format gives. -/
structure Pass extends Printed where
  /-- arguments that are left -/
  arguments : List String := []
  /-- some directive took an argument -/
  took : Bool := false
  goesOn : Bool := true

/-- One pass over a format. -/
def passFor : Nat → List Char → List String → Pass
  | 0, _, arguments => { arguments }
  | _ + 1, [], arguments => { arguments }
  | n + 1, '\\' :: rest, arguments =>
    let (escape, rest) := takeEscape 3 rest
    let p := passFor n rest arguments
    { p with bytes := escape ++ p.bytes }
  | n + 1, '%' :: '%' :: rest, arguments =>
    let p := passFor n rest arguments
    { p with bytes := 37 :: p.bytes }
  | n + 1, '%' :: rest, arguments =>
    match takeDirective rest arguments with
    | .error why => { fault := some why, goesOn := false }
    | .ok (d, rest, arguments) =>
      let argument := arguments.headD ""
      let piece := d.write argument
      let problems := piece.problem.toList.map (argument, ·)
      if piece.goesOn then
        let p := passFor n rest (arguments.drop 1)
        { p with bytes := piece.bytes ++ p.bytes, problems := problems ++ p.problems, took := true }
      else { bytes := piece.bytes, problems, took := true, goesOn := false }
  | n + 1, c :: rest, arguments =>
    let p := passFor n rest arguments
    { p with bytes := Text.Octets.bytesOf c ++ p.bytes }

/-- Passes over a format until no argument is left. -/
def formatFor : Nat → String → List String → Printed
  | 0, _, _ => {}
  | n + 1, layout, arguments =>
    let p := passFor (layout.length + 1) layout.toList arguments
    if p.goesOn && p.took && !p.arguments.isEmpty then
      let rest := formatFor n layout p.arguments
      ⟨p.bytes ++ rest.bytes, p.problems ++ rest.problems, rest.fault⟩
    else p.toPrinted

/-- Writes arguments in a layout, which is used again while arguments are left. -/
def format (layout : String) (arguments : List String) : Printed :=
  formatFor (arguments.length + 1) layout arguments

end RevisionGraph.Shell.Printf
