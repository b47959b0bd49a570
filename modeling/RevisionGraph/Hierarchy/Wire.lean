import RevisionGraph.Hierarchy.Basic

/-!
# Class hierarchies in documents

A type is written with its methods in the order of their ids, a hierarchy with its types in the
order of their identifiers; both are read in the order of the document.  The keys of `methods` are
ids in decimal, and two keys that denote one id, such as `1` and `01`, are one method, the later.
-/

set_option autoImplicit false

namespace RevisionGraph

namespace TypeInfo

/-! ## Writing -/

/-- The methods in the order of their ids. -/
def sortedMethods (t : TypeInfo) : List (MethodId × Identifier) :=
  t.methods.entries.mergeSort fun a b ↦ a.1 ≤ b.1

/-- The document of a type. -/
def toJson (t : TypeInfo) : Json := .object [
  ("sourceFile", .text t.sourceFile),
  ("methods", .object (t.sortedMethods.map fun m ↦ (toString m.1, m.2.toJson))),
  ("superClasses", .array (t.superClasses.map Identifier.toJson)),
  ("superInterfaces", .array (t.superInterfaces.map Identifier.toJson))]

/-! ## Reading -/

/-- One method: the identifier is looked at before the id. -/
def methodOfMember (m : String × Json) : Result (MethodId × Identifier) := do
  let name ← Identifier.ofJson m.2
  let id ← MethodId.ofText m.1
  return (id, name)

/-- Reads a type from its document. -/
def ofJson (data : Json) : Result TypeInfo := do
  let sourceFile ← data.textField "sourceFile" "type"
  let methods ← (← data.objectField "methods" "type").mapM methodOfMember
  let superClasses ← (← data.arrayField "superClasses" "type").mapM Identifier.ofJson
  let superInterfaces ← (← data.arrayField "superInterfaces" "type").mapM Identifier.ofJson
  return ⟨sourceFile, .ofList methods, superClasses, superInterfaces⟩

end TypeInfo

namespace Hierarchy

/-- The types in the order of their identifiers. -/
def sortedTypes (h : Hierarchy) : List (Identifier × TypeInfo) :=
  h.entries.mergeSort fun a b ↦ (compare a.1 b.1).isLE

/-- The document of a hierarchy. -/
def toJson (h : Hierarchy) : Json :=
  .object (h.sortedTypes.map fun e ↦ (e.1.text, e.2.toJson))

/-- One type: what is known of it is looked at before its identifier. -/
def typeOfMember (m : String × Json) : Result (Identifier × TypeInfo) := do
  let info ← TypeInfo.ofJson m.2
  let name ← Identifier.ofText m.1
  return (name, info)

/-- Reads a hierarchy from members that name types; of two that name one type the later counts. -/
def ofMembers (members : List (String × Json)) : Result Hierarchy := do
  return .ofList (← members.mapM typeOfMember)

/-- Reads a hierarchy from its document. -/
def ofJson : Json → Result Hierarchy
  | .object members => ofMembers members
  | value => Json.wrongShape (.notObject "cha" value)

end Hierarchy

end RevisionGraph
