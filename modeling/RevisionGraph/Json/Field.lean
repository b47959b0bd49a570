import RevisionGraph.Fault.Basic

/-!
# Members that a document must have

`field` looks a member up and asks for its kind; the typed readers `textField`, `integerField`,
`arrayField` and `objectField` also take the value apart.  `context` names the enclosing object in
messages.
-/

set_option autoImplicit false

namespace RevisionGraph

/-- What a reader gives, or why it cannot. -/
abbrev Result (α : Type) := Except Fault α

namespace Json

/-- Refuses the shape of a document. -/
def wrongShape {α : Type} (cause : FormatFault) : Result α := .error (.format cause)

/-- The member under `key`, if the value is an object that has one of that kind. -/
def field (key : String) (kind : Kind) (context : String) (data : Json) : Result Json :=
  match data with
  | .object _ => match data.member? key with
    | none => wrongShape (.missingMember key context)
    | some value =>
      if kind.admits value then .ok value
      else wrongShape (.wrongKind key context kind value)
  | _ => wrongShape (.notObject context data)

/-- The text under a key. -/
def textField (key context : String) (data : Json) : Result String := do
  match ← data.field key .text context with
  | .text s => return s
  | value => wrongShape (.wrongKind key context .text value)

/-- The integer under a key. -/
def integerField (key context : String) (data : Json) : Result Int := do
  match ← data.field key .integer context with
  | .int i => return i
  | value => wrongShape (.wrongKind key context .integer value)

/-- The items of the array under a key. -/
def arrayField (key context : String) (data : Json) : Result (List Json) := do
  match ← data.field key .array context with
  | .array items => return items
  | value => wrongShape (.wrongKind key context .array value)

/-- The members of the object under a key. -/
def objectField (key context : String) (data : Json) : Result (List (String × Json)) := do
  match ← data.field key .object context with
  | .object members => return members
  | value => wrongShape (.wrongKind key context .object value)

end Json

end RevisionGraph
