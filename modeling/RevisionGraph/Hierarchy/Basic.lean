import RevisionGraph.Identifier
import RevisionGraph.MethodId
import RevisionGraph.OrderedMap

/-!
# Class hierarchies

A revision defines types, classes and interfaces alike.  `TypeInfo` is what is known of one: the
file it was compiled from, its methods under their ids, and its ancestors, nearest first.  A
`Hierarchy` maps identifiers to types.

`Hierarchy.methods` is the flat map of all methods; of two types that share an id the later one
names the method.
-/

set_option autoImplicit false

namespace RevisionGraph

/-- What is known of a type: its methods and the types above it. -/
structure TypeInfo where
  sourceFile : String
  methods : OrderedMap MethodId Identifier
  superClasses : List Identifier
  superInterfaces : List Identifier
  deriving DecidableEq

/-- The two types say the same, whatever the order of their methods. -/
def TypeInfo.agrees (a b : TypeInfo) : Bool :=
  a.sourceFile == b.sourceFile && a.methods.agreesBy (· == ·) b.methods &&
    a.superClasses == b.superClasses && a.superInterfaces == b.superInterfaces

/-- The types of a release, by name. -/
abbrev Hierarchy := OrderedMap Identifier TypeInfo

namespace Hierarchy

/-- The hierarchies are the same but for the order of their types and of the methods in each. -/
def agrees (a b : Hierarchy) : Bool := a.agreesBy TypeInfo.agrees b

/-- The type under an identifier, which must be there. -/
def require (h : Hierarchy) (name : Identifier) : Result TypeInfo :=
  match h.find? name with
  | some t => .ok t
  | none => .error (.conversion (.unknownKey name.shown))

/-- The methods of every type in one list, in the order of the types. -/
def methodEntries (h : Hierarchy) : List (MethodId × Identifier) :=
  h.values.flatMap fun t ↦ t.methods.entries

/-- The methods of every type in one map. -/
def methods (h : Hierarchy) : OrderedMap MethodId Identifier := .ofList h.methodEntries

/-- Each method id with the type that defines it, in the order of the types. -/
def owners (h : Hierarchy) : List (MethodId × Identifier) :=
  h.entries.flatMap fun e ↦ e.2.methods.keys.map fun id ↦ (id, e.1)

end Hierarchy

end RevisionGraph
