import RevisionGraph.Calls.Basic

/-!
# Call graphs in documents

Internal calls are pairs of integers, written and read in their order.  External calls are triples
of source, target and counts; they are written in the order of source and target, with the counts
in the order of their call types, and no two of them may share source and target.
-/

set_option autoImplicit false

namespace RevisionGraph

/-! ## Writing -/

namespace Tally

/-- The counts in the order of the types of the calls. -/
def sorted (t : Tally) : List (String × Count) :=
  t.entries.mergeSort fun a b ↦ (compare a.1 b.1).isLE

/-- A tally is an object that gives each type of call its count. -/
def toJson (t : Tally) : Json := .object (t.sorted.map fun e ↦ (e.1, .text e.2.text))

end Tally

/-- The order of calls that leave a release: first by who calls. -/
def ExternalKey.compare (a b : ExternalKey) : Ordering :=
  (Ord.compare a.source b.source).then (Ord.compare a.target b.target)

namespace CallGraph

/-- The calls that leave the release, in their order. -/
def sortedExternal (g : CallGraph) : List (ExternalKey × Tally) :=
  g.external.entries.mergeSort fun a b ↦ (a.1.compare b.1).isLE

/-- The document of a call graph. -/
def toJson (g : CallGraph) : Json := .object [
  ("internalCalls", .array (g.internal.map fun c ↦ .array [.int c.source, .int c.target])),
  ("externalCalls", .array (g.sortedExternal.map fun e ↦
    .array [.text (toString e.1.source), e.1.target.toJson, Tally.toJson e.2]))]

end CallGraph

/-! ## Reading -/

/-- Reads a call inside a release from an array of two. -/
def InternalCall.ofJson (entry : Json) : Result InternalCall :=
  match entry with
  | .array [.int source, .int target] => do
    return ⟨← MethodId.ofJson (.int source), ← MethodId.ofJson (.int target)⟩
  | .array [_, _] => Json.wrongShape (.internalCallIds entry)
  | _ => Json.wrongShape (.internalCallNotPair entry)

/-- Reads a count from a member of a tally. -/
def Count.ofMember (m : String × Json) : Result (String × Count) :=
  match m.2 with
  | .text s =>
    if decimal : Text.isDecimal s.toList = true then .ok (m.1, ⟨s, decimal⟩)
    else Json.wrongShape (.countNotDecimal m.1 m.2)
  | _ => Json.wrongShape (.countNotDecimal m.1 m.2)

/-- One external call: the counts are looked at before the source, the source before the target. -/
def externalOfJson (entry : Json) : Result (ExternalKey × Tally) :=
  match entry with
  | .array [source, target, .object counts] => do
    let tally ← counts.mapM Count.ofMember
    let source ← MethodId.ofJson source
    let target ← Identifier.ofJson target
    return (⟨source, target⟩, .ofList tally)
  | .array [_, _, _] => Json.wrongShape (.externalCallTags entry)
  | _ => Json.wrongShape (.externalCallNotTriple entry)

/-- Reads one more external call; its source and target must be new. -/
def addExternalEntry (m : OrderedMap ExternalKey Tally) (entry : Json) :
    Result (OrderedMap ExternalKey Tally) := do
  let (key, tally) ← externalOfJson entry
  if m.contains key then Json.wrongShape (.externalCallRepeated key.source key.target.text)
  else return m.insert key tally

namespace CallGraph

/-- Reads a call graph from its document. -/
def ofJson (data : Json) : Result CallGraph := do
  let internalEntries ← data.arrayField "internalCalls" "graph"
  let externalEntries ← data.arrayField "externalCalls" "graph"
  let internal ← internalEntries.mapM InternalCall.ofJson
  let external ← externalEntries.foldlM addExternalEntry .empty
  return ⟨internal, external⟩

end CallGraph

end RevisionGraph
