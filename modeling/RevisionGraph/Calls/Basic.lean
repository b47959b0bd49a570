import RevisionGraph.Identifier
import RevisionGraph.MethodId
import RevisionGraph.OrderedMap

/-!
# Calls

* **Internal calls** join two methods of the revision.  Each call site is kept, so a pair may occur
  more than once, and their order is part of the graph.
* **External calls** lead from a method of the revision to a method elsewhere.  The call sites of
  one source and target are merged: under each call type the graph holds how many there are.
* **Counts** are decimal texts.  A count that was read keeps its leading zeros until a call site is
  added to it.
-/

set_option autoImplicit false

namespace RevisionGraph

/-- A method of the release calls another. -/
structure InternalCall where
  source : MethodId
  target : MethodId
  deriving DecidableEq, Repr

/-- A method of the release calls a method that is known by name only. -/
structure ExternalKey where
  source : MethodId
  target : Identifier
  deriving DecidableEq

/-! ## Counts -/

/-- A number of call sites in decimal. -/
structure Count where
  text : String
  decimal : Text.isDecimal text.toList = true
  deriving DecidableEq

namespace Count

/-- The count that a number makes. -/
def ofNat (n : Nat) : Count :=
  ⟨String.ofList (Nat.toDigits 10 n), by simpa using Text.isDecimal_toDigits n⟩

/-- The number that the count writes. -/
def value (c : Count) : Nat := Text.readDecimal c.text.toList

/-- One call site more; a count of more than `Text.digitLimit` digits is neither read nor
written. -/
def next (c : Count) : Result Count :=
  if Text.digitLimit < c.text.length then
    .error (.conversion (.tooManyDigitsToRead c.text.length))
  else if Text.isWritable (c.value + 1) then .ok (.ofNat (c.value + 1))
  else .error (.conversion .tooManyDigitsToWrite)

end Count

/-- The number of call sites under each call type. -/
abbrev Tally := OrderedMap String Count

/-! ## Graphs -/

/-- The calls of a release: those inside it, in their order, and those that leave it, counted by the
types of the calls. -/
structure CallGraph where
  internal : List InternalCall
  external : OrderedMap ExternalKey Tally
  deriving DecidableEq

namespace CallGraph

/-- Nothing calls anything. -/
def empty : CallGraph := ⟨[], .empty⟩

/-- There are no calls. -/
def isEmpty (g : CallGraph) : Bool := g.internal.isEmpty && g.external.isEmpty

/-- The number of internal calls and of external pairs. -/
def size (g : CallGraph) : Nat := g.internal.length + g.external.size

/-- The same internal calls in the same order and the same external ones in any. -/
def agrees (a b : CallGraph) : Bool :=
  a.internal == b.internal && a.external.agreesBy (fun s t ↦ s.agreesBy (· == ·) t) b.external

/-- Adds one internal call site, at the end. -/
def addInternal (g : CallGraph) (source target : MethodId) : CallGraph :=
  { g with internal := g.internal ++ [⟨source, target⟩] }

/-- Gives a source and target an empty tally if they have none. -/
def openTally (g : CallGraph) (k : ExternalKey) : CallGraph :=
  { g with external := g.external.insert k ((g.external.find? k).getD .empty) }

/-- Counts one external call site more, and gives what is left of the graph whether or not the count
can go up: the tally is opened before the count is looked at. -/
def tallyExternal (g : CallGraph) (source : MethodId) (target : Identifier) (callType : String) :
    CallGraph × Result Unit :=
  let key : ExternalKey := ⟨source, target⟩
  let g := g.openTally key
  let tally := (g.external.find? key).getD .empty
  match ((tally.find? callType).getD (.ofNat 0)).next with
  | .error e => (g, .error e)
  | .ok count =>
    ({ g with external := g.external.insert key (tally.insert callType count) }, .ok ())

/-- Adds one external call site to those of its source, target and call type. -/
def addExternal (g : CallGraph) (source : MethodId) (target : Identifier) (callType : String) :
    Result CallGraph :=
  let (g, result) := g.tallyExternal source target callType
  result.map fun _ ↦ g

/-- The graph of a list of internal and a list of external call sites. -/
def ofEdges (internal : List InternalCall) (external : List (ExternalKey × String)) :
    Result CallGraph :=
  external.foldlM (fun g e ↦ g.addExternal e.1.source e.1.target e.2)
    (internal.foldl (fun g c ↦ g.addInternal c.source c.target) empty)

/-! ## Ids in use -/

/-- Every id that a call starts from or leads to, as often as it does. -/
def endpoints (g : CallGraph) : List MethodId :=
  g.internal.flatMap (fun c ↦ [c.source, c.target]) ++ g.external.keys.map ExternalKey.source

/-- Keeps one of neighbours that are equal. -/
def dropRepeats : List MethodId → List MethodId
  | a :: b :: rest => if a = b then dropRepeats (b :: rest) else a :: dropRepeats (b :: rest)
  | short => short

/-- The ids that calls use, in increasing order. -/
def referencedIds (g : CallGraph) : List MethodId :=
  dropRepeats (g.endpoints.mergeSort (· ≤ ·))

end CallGraph

end RevisionGraph
