import RevisionGraph.Text.Utf8

/-!
# Texts in bytes of an unnamed charset

A document that comes as bytes does not name its charset.  `Charset.detect` tells it from a byte
order mark or, without one, from where the zero bytes stand among the first four: a document
starts with two ASCII characters.  `decodeDetected` then reads the text.

`decodeFile` reads the text of a file, which is always UTF-8.  A file is read piece by piece, so
what comes before a piece that is no text is read even so, and positions count from where that piece
starts.
-/

set_option autoImplicit false

namespace RevisionGraph.Text

/-- How characters stand in bytes. -/
inductive Charset where
  | utf8
  | utf16le
  | utf16be
  | utf32le
  | utf32be
  deriving DecidableEq, Repr

/-- How a message names the charset. -/
def Charset.name : Charset → String
  | .utf8 => "utf-8"
  | .utf16le => "utf-16-le"
  | .utf16be => "utf-16-be"
  | .utf32le => "utf-32-le"
  | .utf32be => "utf-32-be"

/-! ## Bytes that are no text -/

/-- Bytes `start` to `start + width - 1` are no text of the charset. -/
structure Undecodable where
  charset : Charset
  first : UInt8
  start : Nat
  width : Nat
  cause : Malformation
  deriving DecidableEq, Repr

/-- How a message names the malformation. -/
def Malformation.message : Malformation → String
  | .invalidStart => "invalid start byte"
  | .invalidContinuation => "invalid continuation byte"
  | .unexpectedEnd => "unexpected end of data"
  | .truncated => "truncated data"
  | .outOfRange => "code point not in range(0x110000)"

/-- What is said of bytes that are no text. -/
def Undecodable.message (e : Undecodable) : String :=
  let place :=
    if e.width = 1 then
      let digits := Nat.toDigits 16 e.first.toNat
      let two := if digits.length < 2 then '0' :: digits else digits
      s!"byte 0x{String.ofList two} in position {e.start}"
    else s!"bytes in position {e.start}-{e.start + e.width - 1}"
  "'" ++ e.charset.name ++ "' codec can't decode " ++ place ++ ": " ++ e.cause.message

/-! ## Sixteen and thirty-two bit units -/

/-- The number that `n` bytes spell, the most significant byte first or last. -/
def unitAt (bigEndian : Bool) (n : Nat) (bytes : Bytes) : Nat :=
  let unit := bytes.take n
  (if bigEndian then unit else unit.reverse).foldl (fun acc b ↦ 0x100 * acc + b.toNat) 0

/-- Reads one character of UTF-16; a surrogate without its partner reads as U+FFFD. -/
def stepUtf16 (bigEndian : Bool) (bytes : Bytes) : Utf8.Step :=
  if (bytes.take 2).length < 2 then .malformed .truncated bytes.length
  else
    let u := unitAt bigEndian 2 bytes
    if u < 0xd800 || 0xdfff < u then .char (Char.ofNat u) 2
    else
      let v := unitAt bigEndian 2 (bytes.drop 2)
      if u < 0xdc00 && 4 ≤ (bytes.take 4).length && 0xdc00 ≤ v && v ≤ 0xdfff then
        .char (Char.ofNat (0x10000 + (u - 0xd800) * 0x400 + (v - 0xdc00))) 4
      else .char '\ufffd' 2

/-- Reads one character of UTF-32; a surrogate code reads as U+FFFD. -/
def stepUtf32 (bigEndian : Bool) (bytes : Bytes) : Utf8.Step :=
  if (bytes.take 4).length < 4 then .malformed .truncated bytes.length
  else
    let u := unitAt bigEndian 4 bytes
    if 0xd800 ≤ u && u ≤ 0xdfff then .char '\ufffd' 4
    else if u < 0x110000 then .char (Char.ofNat u) 4
    else .malformed .outOfRange 4

/-! ## Detection -/

/-- The charset of a document and the number of bytes of its byte order mark. -/
def Charset.detect (bytes : Bytes) : Charset × Nat :=
  match bytes with
  | 0x00 :: 0x00 :: 0xfe :: 0xff :: _ => (.utf32be, 4)
  | 0xff :: 0xfe :: 0x00 :: 0x00 :: _ => (.utf32le, 4)
  | 0xfe :: 0xff :: _ => (.utf16be, 2)
  | 0xff :: 0xfe :: _ => (.utf16le, 2)
  | 0xef :: 0xbb :: 0xbf :: _ => (.utf8, 3)
  | a :: b :: c :: d :: _ =>
    if a == 0 then if b == 0 then (.utf32be, 0) else (.utf16be, 0)
    else if b == 0 then if c == 0 && d == 0 then (.utf32le, 0) else (.utf16le, 0)
    else (.utf8, 0)
  | [a, b] =>
    if a == 0 then (.utf16be, 0) else if b == 0 then (.utf16le, 0) else (.utf8, 0)
  | _ => (.utf8, 0)

/-- Reads one character of the charset. -/
def Charset.step : Charset → Bytes → Utf8.Step
  | .utf8 => Utf8.stepPastSurrogates
  | .utf16le => stepUtf16 false
  | .utf16be => stepUtf16 true
  | .utf32le => stepUtf32 false
  | .utf32be => stepUtf32 true

/-- Where positions in a document start to count: after the mark of UTF-8, and before the marks of
the others. -/
def Charset.origin : Charset → Nat → Nat
  | .utf8, _ => 0
  | _, mark => mark

/-- Reads a document whose charset its bytes tell. -/
def decodeDetected (bytes : Bytes) : Except Undecodable String :=
  let (charset, mark) := Charset.detect bytes
  let origin := charset.origin mark
  let body := bytes.drop mark
  match Utf8.decodeWith charset.step body.length origin body with
  | .ok cs => .ok (String.ofList cs)
  | .error e =>
    .error ⟨charset, (body.drop (e.start - origin)).headD 0, e.start, e.width, e.cause⟩

/-! ## Files -/

/-- How many bytes of a file are read at once. -/
def pieceSize : Nat := 8192

/-- A file that is no text. -/
structure Interruption where
  /-- what was read of it -/
  before : String
  /-- what is wrong with the next piece -/
  cause : Undecodable

/-- The last bytes of a file are the start of a sequence that the file does not finish. -/
def isUnfinished : Bytes → Bool
  | [] => false
  | [0xed, b] => 0x80 ≤ b && b ≤ 0xbf
  | bytes => match Utf8.step bytes with
    | .malformed .unexpectedEnd _ => true
    | _ => false

/-- The number of the byte with which it shows that bytes are malformed.  A surrogate code, which no
character has, is waited for up to its third byte. -/
def Utf8.Malformed.shownBy (e : Malformed) (bytes : Bytes) : Nat :=
  match e.cause, bytes.drop e.start with
  | .invalidStart, _ => e.start
  | _, 0xed :: b :: _ => if 0xa0 ≤ b && b ≤ 0xbf then e.start + 2 else e.start + e.width
  | _, _ => e.start + e.width

/-- The characters at the start of bytes, and how many bytes they take. -/
def decodePrefix (bytes : Bytes) : List Char × Nat :=
  match Utf8.decode bytes with
  | .ok cs => (cs, bytes.length)
  | .error e => ((Utf8.decode (bytes.take e.start)).toOption.getD [], e.start)

/-- Reads the text of a UTF-8 file, or as much of it as comes before a piece that is no text. -/
def decodeFile (bytes : Bytes) : Except Interruption String :=
  match Utf8.decode bytes with
  | .ok cs => .ok (String.ofList cs)
  | .error e =>
    let rest := bytes.drop e.start
    -- a sequence that is not finished is looked at again when the file has ended
    let there := if isUnfinished rest then e.start else e.shownBy bytes / pieceSize * pieceSize
    let (before, origin) := decodePrefix (bytes.take there)
    .error ⟨String.ofList before, ⟨.utf8, rest.headD 0, e.start - origin, e.width, e.cause⟩⟩

end RevisionGraph.Text
