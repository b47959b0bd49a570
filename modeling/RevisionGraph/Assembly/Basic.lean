import RevisionGraph.Revision.Draft

/-!
# Assembling a call graph

An analyser reports types, methods and call sites by identifier, in any order.  An `Assembly`
collects them and makes a call graph of them.

* **Ids.**  A method gets the number of methods registered before it as its id, and keeps it.  The
  id stands twice: in the table of ids, and in the type as the key of the method.
* **Resolution.**  `buildGraph` looks the calls up once everything is there: a call between two
  registered methods is internal, a call to any other method external.
* **Statistics.**  `stats` counts what the last `buildGraph` saw.  It starts from zero and counts
  external call sites as it goes, so after a failure it holds those before the failing call.
-/

set_option autoImplicit false

namespace RevisionGraph

/-- A call as it was reported. -/
structure CallSite where
  source : Identifier
  target : Identifier
  callType : String
  deriving DecidableEq

/-- What the last attempt at a graph counted. -/
structure Stats where
  types : Nat := 0
  methods : Nat := 0
  internalCalls : Nat := 0
  externalCallSites : Nat := 0
  externalCalls : Nat := 0
  deriving DecidableEq, Repr

/-- What names a release when its call graph is built. -/
structure Release where
  forge : String
  product : String
  version : String
  generator : String
  /-- negative when unknown -/
  time : Int
  dependencies : Dependencies

/-- What an analyser has reported so far. -/
structure Assembly where
  types : Hierarchy := .empty
  /-- the ids of the registered methods -/
  methodIds : OrderedMap Identifier MethodId := .empty
  calls : List CallSite := []
  stats : Stats := {}

namespace Assembly

/-- The assembly to which nothing was reported. -/
def empty : Assembly := {}

/-! ## Registering -/

/-- The registered methods, in the order in which they were registered. -/
def methods (a : Assembly) : List Identifier := a.methodIds.keys

/-- The id of a registered method. -/
def methodId? (a : Assembly) (method : Identifier) : Option MethodId := a.methodIds.find? method

/-- Registers a type.  A known type keeps its methods, and its place. -/
def addType (a : Assembly) (name : Identifier) (sourceFile : String)
    (superClasses superInterfaces : List Identifier) : Assembly :=
  let methods := match a.types.find? name with
    | some known => known.methods
    | none => .empty
  { a with types := a.types.insert name { sourceFile, methods, superClasses, superInterfaces } }

/-- Registers a method of a registered type, and gives its id.  A method belongs to one type. -/
def addMethod (a : Assembly) (type method : Identifier) : Assembly × Result MethodId :=
  match a.types.find? type with
  | none => (a, .error (.invariant (.methodOfUnknownType type.text method.text)))
  | some info => match a.methodId? method with
    | some id =>
      if info.methods.find? id = some method then (a, .ok id)
      else (a, .error (.invariant (.methodOfTwoTypes type.text method.text)))
    | none =>
      let id : MethodId := a.methodIds.size
      ({ a with
        methodIds := a.methodIds.insert method id
        types := a.types.insert type { info with methods := info.methods.insert id method } },
      .ok id)

/-- Records one call site. -/
def addCall (a : Assembly) (source target : Identifier) (callType : String) : Assembly :=
  { a with calls := a.calls ++ [⟨source, target, callType⟩] }

/-! ## Building -/

/-- Adds calls to a graph, and counts the external call sites on top of `sites`. -/
def resolve (a : Assembly) : CallGraph → Nat → List CallSite → Nat × Result CallGraph
  | g, sites, [] => (sites, .ok g)
  | g, sites, c :: rest =>
    match a.methodId? c.source with
    | none => (sites, .error (.invariant (.callFromUnknownMethod c.source.text c.target.text)))
    | some source => match a.methodId? c.target with
      | some target => a.resolve (g.addInternal source target) sites rest
      | none => match g.addExternal source c.target c.callType with
        | .error e => (sites, .error e)
        | .ok g => a.resolve g (sites + 1) rest

/-- The graph of the recorded calls. -/
def buildGraph (a : Assembly) : Assembly × Result CallGraph :=
  let (sites, result) := a.resolve .empty 0 a.calls
  match result with
  | .error e => ({ a with stats := { externalCallSites := sites } }, .error e)
  | .ok g =>
    let stats := {
      types := a.types.size
      methods := a.methodIds.size
      internalCalls := g.internal.length
      externalCallSites := sites
      externalCalls := g.external.size }
    ({ a with stats }, .ok g)

/-- The draft of a release with these types and calls. -/
def draft (a : Assembly) (r : Release) (g : CallGraph) : Draft where
  forge := some r.forge
  product := some r.product
  version := some r.version
  generator := some r.generator
  time := r.time
  dependencies := r.dependencies
  hierarchy := a.types
  calls := g

/-- The revision of a release, from everything registered so far. -/
def build (a : Assembly) (r : Release) : Assembly × Result Revision :=
  let (a, result) := a.buildGraph
  match result with
  | .error e => (a, .error e)
  | .ok g => (a, (a.draft r g).build)

/-- What building has to say about the time. -/
def notices (a : Assembly) (r : Release) : List Notice :=
  match a.buildGraph.2 with
  | .error _ => []
  | .ok g => (a.draft r g).notices

end Assembly

end RevisionGraph
