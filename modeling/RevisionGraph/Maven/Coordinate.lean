import RevisionGraph.Json.Field

/-!
# Coordinates

A `Coordinate` names one version of one Maven artifact.  It is read from a record, where a value of
any kind stands for its text.
-/

set_option autoImplicit false

namespace RevisionGraph

/-- What names an artifact. -/
structure Coordinate where
  groupId : String
  artifactId : String
  version : String
  deriving DecidableEq, Repr

namespace Coordinate

/-- The name of the product, without the version. -/
def product (c : Coordinate) : String := c.groupId ++ ":" ++ c.artifactId

/-- The coordinate as it is shown. -/
def text (c : Coordinate) : String := c.product ++ ":" ++ c.version

/-- Why a value has no member under a key. -/
def lackOfMember (key : String) : Json → String
  | .object _ => Text.quoted key
  | .array _ => "list indices must be integers or slices, not str"
  | .text _ => "string indices must be integers, not 'str'"
  | value => "'" ++ value.kindName ++ "' object is not subscriptable"

/-- The text of the value under a key of a record. -/
def memberText (record : Json) (key : String) : Result String :=
  match record.member? key with
  | some value => .ok value.plain
  | none => Json.wrongShape (.coordinateUnreadable record (lackOfMember key record))

/-- The coordinate that a record holds. -/
def ofRecord (record : Json) : Result Coordinate := do
  let groupId ← memberText record "groupId"
  let artifactId ← memberText record "artifactId"
  let version ← memberText record "version"
  return { groupId, artifactId, version }

end Coordinate

end RevisionGraph
