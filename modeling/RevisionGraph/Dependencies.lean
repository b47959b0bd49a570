import RevisionGraph.Json.Field

/-!
# Dependencies

The dependencies of a revision are groups of objects, which pass from document to document without
being read.  `Dependencies.ofJson` checks the shape and nothing more.
-/

set_option autoImplicit false

namespace RevisionGraph

/-- Groups of dependencies, as the document holds them. -/
abbrev Dependencies := List Json

namespace Dependencies

/-- The dependencies of one group are objects. -/
def checkGroup (index : Nat) : Json → Result Unit
  | .array items =>
    if items.all (Json.Kind.object.admits ·) then .ok ()
    else Json.wrongShape (.dependencyNotObject index)
  | _ => Json.wrongShape (.dependencyGroupNotArray index)

/-- Checks the groups from number `index` on. -/
def checkGroups : Nat → List Json → Result Unit
  | _, [] => .ok ()
  | index, group :: rest => do
    checkGroup index group
    checkGroups (index + 1) rest

/-- Takes groups as they are, once they have been checked. -/
def ofItems (groups : List Json) : Result Dependencies := do
  checkGroups 0 groups
  return groups

/-- Reads dependencies from an array of groups. -/
def ofJson : Json → Result Dependencies
  | .array groups => ofItems groups
  | value => Json.wrongShape (.dependenciesNotArray value)

/-- Dependencies are written as they were read. -/
def toJson (d : Dependencies) : Json := .array d

end Dependencies

end RevisionGraph
