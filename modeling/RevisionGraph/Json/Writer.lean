import RevisionGraph.Json.Basic
import RevisionGraph.Number.Decimal
import RevisionGraph.Text.Digits
import RevisionGraph.Text.Quoted

/-!
# Writing JSON

`write` is the text of a value.

* **Texts.**  The quote, the backslash and the characters below the space are escaped; every other
  character stands for itself.
* **Separators.**  `Spacing` holds the text between items and between key and value; `compact` has
  no spaces and `spaced` one after each.
* **Limits.**  An integer of more than `Text.digitLimit` digits is not written; `isWritable` says
  that a value holds none.
-/

set_option autoImplicit false

namespace RevisionGraph.Json

/-! ## Texts -/

/-- One character of a text between quotes. -/
def escapeChar (c : Char) : List Char :=
  if c == Text.doubleQuote || c == '\\' then ['\\', c]
  else if c == '\n' then ['\\', 'n']
  else if c == '\r' then ['\\', 'r']
  else if c == '\t' then ['\\', 't']
  else if c.toNat == 0x08 then ['\\', 'b']
  else if c.toNat == 0x0c then ['\\', 'f']
  else if c.toNat < 0x20 then '\\' :: 'u' :: Text.hexDigits 4 c.toNat
  else [c]

/-- A text between quotes. -/
def writeText (s : String) : List Char :=
  Text.doubleQuote :: s.toList.flatMap escapeChar ++ [Text.doubleQuote]

/-! ## Values -/

/-- What stands between the items of a list and between the key and the value of a member. -/
structure Spacing where
  afterItem : List Char
  afterKey : List Char
  deriving DecidableEq, Repr

/-- No blanks. -/
def Spacing.compact : Spacing := ⟨[','], [':']⟩

/-- A blank behind each separator. -/
def Spacing.spaced : Spacing := ⟨[',', ' '], [':', ' ']⟩

mutual

/-- The characters of a document. -/
def writeValue (sp : Spacing) : Json → List Char
  | .null => "null".toList
  | .bool b => (if b then "true" else "false").toList
  | .int i => (toString i).toList
  | .float x => (documentLayout.write x).toList
  | .text s => writeText s
  | .array [] => ['[', ']']
  | .array (item :: rest) => '[' :: writeValue sp item ++ writeItems sp rest ++ [']']
  | .object [] => ['\x7b', '\x7d']
  | .object ((key, value) :: rest) =>
    '\x7b' :: writeText key ++ sp.afterKey ++ writeValue sp value ++ writeMembers sp rest ++
      ['\x7d']

/-- The items after the first. -/
def writeItems (sp : Spacing) : List Json → List Char
  | [] => []
  | item :: rest => sp.afterItem ++ writeValue sp item ++ writeItems sp rest

/-- The members after the first. -/
def writeMembers (sp : Spacing) : List (String × Json) → List Char
  | [] => []
  | (key, value) :: rest =>
    sp.afterItem ++ writeText key ++ sp.afterKey ++ writeValue sp value ++ writeMembers sp rest

end

/-- The text of a value. -/
def write (sp : Spacing) (value : Json) : String := String.ofList (writeValue sp value)

/-! ## Limits -/

mutual

/-- Every integer in the value is short enough to be written. -/
def isWritable : Json → Bool
  | .int i => Text.isWritable i
  | .array items => areWritable items
  | .object members => areMembersWritable members
  | _ => true

/-- All items can be written. -/
def areWritable : List Json → Bool
  | [] => true
  | item :: rest => isWritable item && areWritable rest

/-- The values of all members can be written. -/
def areMembersWritable : List (String × Json) → Bool
  | [] => true
  | (_, value) :: rest => isWritable value && areMembersWritable rest

end

/-- The text of a value, unless it holds an integer that is too long. -/
def write? (sp : Spacing) (value : Json) : Option String :=
  if value.isWritable then some (value.write sp) else none

end RevisionGraph.Json
