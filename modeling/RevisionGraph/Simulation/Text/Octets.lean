import RevisionGraph.Text.Digits
import RevisionGraph.Text.Utf8

/-!
# Texts of bytes

Commands work on bytes.  Here a text of bytes is a `String` whose characters are below 256 and stand
for one byte each; any other character in it stands for the bytes of its UTF-8 form.

* **Bytes.**  `ofBytes` and `toBytes` go between bytes and such texts; `toBytes_ofBytes` says that
  no byte is lost.
* **Names.**  `ofName` and `toName` go between such texts and the names that files have.  A byte
  that belongs to no character is a stray: a character of its own range stands for it.
-/

set_option autoImplicit false

namespace RevisionGraph.Text.Octets

/-! ## Bytes -/

/-- Bytes as characters of the same numbers. -/
def ofBytes (bytes : Bytes) : String := String.ofList (bytes.map fun b ↦ Char.ofNat b.toNat)

/-- The bytes that a character stands for. -/
def bytesOf (c : Char) : Bytes :=
  if c.toNat < 256 then [UInt8.ofNat c.toNat] else Utf8.encodeChar c

/-- The bytes that characters stand for. -/
def toBytes (s : String) : Bytes := s.toList.flatMap bytesOf

theorem bytesOf_byte (b : UInt8) : bytesOf (Char.ofNat b.toNat) = [b] := by
  have small : b.toNat < 256 := b.toNat_lt
  have valid : (Char.ofNat b.toNat).toNat = b.toNat := by
    have h : b.toNat.isValidChar := Or.inl (by omega)
    rw [Char.ofNat, dif_pos h]
    rfl
  simp [bytesOf, valid, small]

theorem toBytes_ofBytes (bytes : Bytes) : toBytes (ofBytes bytes) = bytes := by
  simp only [toBytes, ofBytes, String.toList_ofList, List.flatMap_map, bytesOf_byte]
  induction bytes with
  | nil => rfl
  | cons b rest ih => simp [List.flatMap_cons, ih]

/-- The bytes that pairs of hexadecimal digits spell. -/
def ofHex : List Char → Bytes
  | a :: b :: rest =>
    UInt8.ofNat ((hexValue? a).getD 0 * 16 + (hexValue? b).getD 0) :: ofHex rest
  | _ => []

/-! ## Names -/

/-- Where the characters begin that stand for stray bytes. -/
def strays : Nat := 0x10ff00

/-- The text of bytes of a name. -/
def ofName (name : String) : String :=
  ofBytes (name.toList.flatMap fun c ↦
    if strays ≤ c.toNat then [UInt8.ofNat (c.toNat - strays)] else Utf8.encodeChar c)

/-- The characters of bytes, strays included; the bound is on the number of characters. -/
def namesFor : Nat → Bytes → List Char
  | 0, _ => []
  | _ + 1, [] => []
  | n + 1, b :: rest =>
    match Utf8.step (b :: rest) with
    | .char c width => c :: namesFor n ((b :: rest).drop width)
    | .malformed _ _ => Char.ofNat (strays + b.toNat) :: namesFor n rest

/-- The name that a text of bytes is. -/
def toName (s : String) : String :=
  if s.toList.all fun c ↦ c.toNat < 128 then s
  else
    let bytes := toBytes s
    String.ofList (namesFor bytes.length bytes)

end RevisionGraph.Text.Octets
