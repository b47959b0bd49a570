import RevisionGraph.Json.Field
import RevisionGraph.Text.Blank

/-!
# Identifiers

An `Identifier` names a type or a method across revisions.  Its grammar belongs to whoever made
it; here it is a text that is not empty and holds no blank.

* **Reading.**  `Identifier.ofJson` and `Identifier.ofText` refuse every other value.
* **Order.**  Identifiers are ordered as their texts are, by code point.
-/

set_option autoImplicit false

namespace RevisionGraph

/-- The name of a type or a method: a text that is not empty and has no blank in it. -/
structure Identifier where
  text : String
  nonempty : text ≠ ""
  unblank : text.toList.any Text.isBlank = false
  deriving DecidableEq

namespace Identifier

theorem ext {a b : Identifier} (h : a.text = b.text) : a = b := by
  cases a; cases b; cases h; rfl

instance : ToString Identifier := ⟨text⟩

/-- The identifier that a text is. -/
def ofText (s : String) : Result Identifier :=
  if empty : s = "" then Json.wrongShape (.identifierNotText (.text s))
  else if blank : s.toList.any Text.isBlank = true then Json.wrongShape (.identifierBlank s)
  else .ok ⟨s, empty, by simpa using blank⟩

/-- The identifier that a value of a document is. -/
def ofJson : Json → Result Identifier
  | .text s => ofText s
  | value => Json.wrongShape (.identifierNotText value)

/-- An identifier is written as a text. -/
def toJson (i : Identifier) : Json := .text i.text

/-- The identifier as messages show it. -/
def shown (i : Identifier) : String := "Identifier(value=" ++ Text.quoted i.text ++ ")"

/-- The order of the texts. -/
def compare (a b : Identifier) : Ordering := Ord.compare a.text b.text

instance : Ord Identifier := ⟨compare⟩

end Identifier

end RevisionGraph
