import RevisionGraph.Json.Basic
import RevisionGraph.Number.Decimal
import RevisionGraph.Text.Quoted

/-!
# Values inside messages

`display` shows a value in a message: texts in quotes, lists in brackets, objects in braces, a
space after every comma and colon.  `plain` shows a text bare and everything else as `display`
does.
-/

set_option autoImplicit false

namespace RevisionGraph.Json

mutual

/-- The value as a message shows it. -/
def display : Json → String
  | .null => "None"
  | .bool b => if b then "True" else "False"
  | .int i => toString i
  | .float x => numberLayout.write x
  | .text s => Text.quoted s
  | .array items => "[" ++ ", ".intercalate (displayItems items) ++ "]"
  | .object members => "\x7b" ++ ", ".intercalate (displayMembers members) ++ "\x7d"

/-- The items of an array as they are shown. -/
def displayItems : List Json → List String
  | [] => []
  | item :: rest => display item :: displayItems rest

/-- The members of an object as they are shown. -/
def displayMembers : List (String × Json) → List String
  | [] => []
  | (key, value) :: rest => (Text.quoted key ++ ": " ++ display value) :: displayMembers rest

end

/-- The value with a text bare. -/
def plain : Json → String
  | .text s => s
  | value => value.display

end RevisionGraph.Json
