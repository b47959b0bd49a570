import RevisionGraph.Calls.Order
import RevisionGraph.Dependencies
import RevisionGraph.Hierarchy.Basic
import RevisionGraph.Notice

/-!
# Revisions

A `Revision` is the call graph of one release of one product: what names the release and the
generator, when it was released if that is known, its dependencies, its types and its calls.

* **Making one.**  `Parts` are the same fields before anything was checked, with a plain integer
  for the time; `Parts.revision` checks them.
* **Validity.**  `validate` asks that no two types share a method id and that calls use defined ids
  only.
* **Canonical order.**  `sortInternal` orders the internal calls by the identifiers of their
  methods.
* **Comparison.**  `agrees` compares all fields and forgets the order of maps.
-/

set_option autoImplicit false

namespace RevisionGraph

/-- The call graph of a release. -/
structure Revision where
  forge : String
  product : String
  version : String
  generator : String
  /-- seconds since the epoch, if known -/
  timestamp : Option Nat
  dependencies : Dependencies
  hierarchy : Hierarchy
  calls : CallGraph
  deriving DecidableEq

namespace Revision

/-- The text under which a revision is published. -/
def uriOf (forge product version : String) : String :=
  "fasten://" ++ forge ++ "!" ++ product ++ "$" ++ version

/-- What the revision is known by. -/
def uri (r : Revision) : String := uriOf r.forge r.product r.version

/-- How an unknown time is written where an integer is due. -/
def unknownTime : Int := -1

/-- The time as an integer. -/
def time (r : Revision) : Int :=
  match r.timestamp with
  | some t => t
  | none => unknownTime

/-- A time before the epoch is unknown. -/
def timestampOf (time : Int) : Option Nat := if time < 0 then none else some time.toNat

/-! ## Validity -/

/-- The first id that is defined a second time, with the two types, going through the types in
order. -/
def firstShared? : List (MethodId × Identifier) → List (MethodId × Identifier) →
    Option (MethodId × Identifier × Identifier)
  | _, [] => none
  | seen, (id, owner) :: rest =>
    match seen.find? fun e ↦ e.1 == id with
    | some e => some (id, e.2, owner)
    | none => firstShared? ((id, owner) :: seen) rest

/-- The ids that calls use and no type defines, in increasing order. -/
def danglingIds (r : Revision) : List MethodId :=
  let defined := r.hierarchy.owners.map Prod.fst
  r.calls.referencedIds.filter fun id ↦ !defined.contains id

/-- No two types share a method id, and calls use defined ids only. -/
def validate (r : Revision) : Result Unit :=
  match firstShared? [] r.hierarchy.owners with
  | some (id, first, second) =>
    .error (.invariant (.sharedMethodId id first.text second.text))
  | none =>
    let dangling := r.danglingIds
    if dangling.isEmpty then .ok ()
    else .error (.invariant (.danglingMethodIds r.uri dangling))

/-! ## Operations -/

/-- The revision has no calls. -/
def isEmpty (r : Revision) : Bool := r.calls.isEmpty

/-- All methods of the revision, by their ids. -/
def methods (r : Revision) : OrderedMap MethodId Identifier := r.hierarchy.methods

/-- Puts the internal calls into the canonical order of their methods' identifiers. -/
def sortInternal (r : Revision) : Revision :=
  { r with calls := r.calls.sortInternal r.methods.find? }

/-- The two revisions hold the same, whatever the order of their maps. -/
def agrees (a b : Revision) : Bool :=
  a.forge == b.forge && a.product == b.product && a.version == b.version &&
    a.generator == b.generator && a.timestamp == b.timestamp &&
    Json.agreesItems a.dependencies b.dependencies &&
    Hierarchy.agrees a.hierarchy b.hierarchy && a.calls.agrees b.calls

/-! ## Making a revision -/

/-- The fields of a revision before they are checked. -/
structure Parts where
  forge : String
  product : String
  version : String
  generator : String
  /-- negative when unknown -/
  time : Int
  dependencies : Dependencies
  hierarchy : Hierarchy
  calls : CallGraph
  deriving DecidableEq

namespace Parts

/-- Time that is neither known nor the usual mark for unknown is worth a notice. -/
def notices (p : Parts) : List Notice :=
  if p.time < 0 && p.time != unknownTime then
    [.warning s!"Negative timestamp {p.time}: assuming {unknownTime}"]
  else []

/-- The revision with these fields, not yet checked. -/
def unchecked (p : Parts) : Revision where
  forge := p.forge
  product := p.product
  version := p.version
  generator := p.generator
  timestamp := timestampOf p.time
  dependencies := p.dependencies
  hierarchy := p.hierarchy
  calls := p.calls

/-- The revision with these fields, if it is valid. -/
def revision (p : Parts) : Result Revision := do
  p.unchecked.validate
  return p.unchecked

end Parts

end Revision

end RevisionGraph
