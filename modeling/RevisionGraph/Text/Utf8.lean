/-!
# UTF-8

`encode` writes characters as bytes and `decode` reads them back.

* **One step.**  `step` reads one character off the front of a list of bytes, or says how many
  bytes do not belong to any character and why.
* **Strict reading.**  `decode` stops at the first malformed bytes.
* **Lenient reading.**  `decodeLenient` puts U+FFFD in their place and goes on.
-/

set_option autoImplicit false

namespace RevisionGraph.Text

/-- What files and documents are made of. -/
abbrev Bytes := List UInt8

/-- What is wrong with bytes that are no text. -/
inductive Malformation where
  | invalidStart
  | invalidContinuation
  | unexpectedEnd
  | truncated
  | outOfRange
  deriving DecidableEq, Repr

namespace Utf8

/-! ## Writing -/

/-- The bytes of a character. -/
def encodeChar (c : Char) : Bytes :=
  let n := c.toNat
  if n < 0x80 then [UInt8.ofNat n]
  else if n < 0x800 then [UInt8.ofNat (0xc0 + n / 0x40), UInt8.ofNat (0x80 + n % 0x40)]
  else if n < 0x10000 then
    [UInt8.ofNat (0xe0 + n / 0x1000), UInt8.ofNat (0x80 + n / 0x40 % 0x40),
      UInt8.ofNat (0x80 + n % 0x40)]
  else
    [UInt8.ofNat (0xf0 + n / 0x40000), UInt8.ofNat (0x80 + n / 0x1000 % 0x40),
      UInt8.ofNat (0x80 + n / 0x40 % 0x40), UInt8.ofNat (0x80 + n % 0x40)]

/-- The bytes of a text. -/
def encode (s : String) : Bytes := s.toList.flatMap encodeChar

/-! ## Reading one character -/

/-- One character read off the front, or malformed bytes, with the number of bytes it took. -/
inductive Step where
  | char (c : Char) (width : Nat)
  | malformed (cause : Malformation) (width : Nat)
  deriving DecidableEq, Repr

/-- For a byte that starts a longer sequence: the bits it carries, the number of bytes that follow
and the range of the first of them. -/
def lead? (b : UInt8) : Option (Nat × Nat × UInt8 × UInt8) :=
  if 0xc2 ≤ b && b ≤ 0xdf then some (b.toNat % 0x20, 1, 0x80, 0xbf)
  else if b == 0xe0 then some (0, 2, 0xa0, 0xbf)
  else if b == 0xed then some (0xd, 2, 0x80, 0x9f)
  else if 0xe1 ≤ b && b ≤ 0xef then some (b.toNat % 0x10, 2, 0x80, 0xbf)
  else if b == 0xf0 then some (0, 3, 0x90, 0xbf)
  else if 0xf1 ≤ b && b ≤ 0xf3 then some (b.toNat % 0x08, 3, 0x80, 0xbf)
  else if b == 0xf4 then some (4, 3, 0x80, 0x8f)
  else none

/-- Reads `n` continuation bytes, the first of them between `lo` and `hi`, onto the bits `acc`. -/
def follow (acc width : Nat) (lo hi : UInt8) : Nat → Bytes → Step
  | 0, _ => .char (Char.ofNat acc) width
  | _ + 1, [] => .malformed .unexpectedEnd width
  | n + 1, b :: rest =>
    if lo ≤ b && b ≤ hi then follow (acc * 0x40 + b.toNat % 0x40) (width + 1) 0x80 0xbf n rest
    else .malformed .invalidContinuation width

/-- Reads one character. -/
def step : Bytes → Step
  | [] => .malformed .unexpectedEnd 0
  | b :: rest =>
    if b < 0x80 then .char (Char.ofNat b.toNat) 1
    else match lead? b with
      | some (bits, n, lo, hi) => follow bits 1 lo hi n rest
      | none => .malformed .invalidStart 1

/-! ## Reading a text -/

/-- Where and why bytes stop being text. -/
structure Malformed where
  start : Nat
  width : Nat
  cause : Malformation
  deriving DecidableEq, Repr

/-- Reads characters until the bytes end, at most as many as the first argument says. -/
def decodeWith (next : Bytes → Step) : Nat → Nat → Bytes → Except Malformed (List Char)
  | 0, _, _ => .ok []
  | _ + 1, _, [] => .ok []
  | n + 1, start, b :: rest =>
    match next (b :: rest) with
    | .char c width =>
      match decodeWith next n (start + width) ((b :: rest).drop width) with
      | .ok cs => .ok (c :: cs)
      | .error e => .error e
    | .malformed cause width => .error ⟨start, width, cause⟩

/-- The text of well-formed bytes, or the first place where they are malformed. -/
def decode (bytes : Bytes) : Except Malformed (List Char) :=
  decodeWith step bytes.length 0 bytes

/-- Reads one character; the three bytes of a surrogate code, which no character has, read as
U+FFFD. -/
def stepPastSurrogates (bytes : Bytes) : Step :=
  match bytes with
  | b :: c :: d :: _ =>
    if b == 0xed && 0xa0 ≤ c && c ≤ 0xbf && 0x80 ≤ d && d ≤ 0xbf then .char '\ufffd' 3
    else step bytes
  | _ => step bytes

/-- Reads characters, malformed bytes as U+FFFD. -/
def decodeLenientFor : Nat → Bytes → List Char
  | 0, _ => []
  | _ + 1, [] => []
  | n + 1, b :: rest =>
    match step (b :: rest) with
    | .char c width => c :: decodeLenientFor n ((b :: rest).drop width)
    | .malformed _ width => '\ufffd' :: decodeLenientFor n ((b :: rest).drop width)

/-- The text of any bytes, with U+FFFD for each malformed part. -/
def decodeLenient (bytes : Bytes) : String :=
  String.ofList (decodeLenientFor bytes.length bytes)

end Utf8

end RevisionGraph.Text
