import RevisionGraph.Calls.Basic

/-!
# The canonical order of internal calls

Calls are ordered by the identifiers of their source and then of their target, an id without an
identifier after every id with one; ties go by the ids themselves.  `sortInternal` puts a graph
into that order and leaves its external calls alone.
-/

set_option autoImplicit false

namespace RevisionGraph

/-- Identifiers in their order, the lack of one last. -/
def compareNames : Option Identifier → Option Identifier → Ordering
  | some a, some b => compare a b
  | some _, none => .lt
  | none, some _ => .gt
  | none, none => .eq

/-- The canonical order, under a naming of ids. -/
def InternalCall.compare (name : MethodId → Option Identifier) (a b : InternalCall) : Ordering :=
  (compareNames (name a.source) (name b.source)).then <|
    (compareNames (name a.target) (name b.target)).then <|
      (Ord.compare a.source b.source).then (Ord.compare a.target b.target)

/-- Puts the internal calls into the canonical order. -/
def CallGraph.sortInternal (g : CallGraph) (name : MethodId → Option Identifier) : CallGraph :=
  { g with internal := g.internal.mergeSort fun a b ↦ (a.compare name b).isLE }

end RevisionGraph
