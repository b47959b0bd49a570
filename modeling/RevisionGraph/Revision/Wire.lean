import RevisionGraph.Calls.Wire
import RevisionGraph.Hierarchy.Wire
import RevisionGraph.Json.Writer
import RevisionGraph.Revision.Basic

/-!
# Revisions in documents

A revision is written as one JSON object without spaces; an unknown time is left out, so that it
stays apart from the epoch.  It is read from a value, a text or the bytes of a text.

* **Writing.**  `encode` fails when an integer in the revision has too many digits.
* **Reading.**  `ofJson` reads the fields in their order, then checks the whole.
* **Notices.**  `notices` is what reading has to say about the time, also where it fails.
-/

set_option autoImplicit false

namespace RevisionGraph

namespace Revision

/-! ## Writing -/

/-- The document of a revision. -/
def toJson (r : Revision) : Json :=
  let time := match r.timestamp with
    | some t => [("timestamp", Json.int t)]
    | none => []
  .object ([
    ("forge", .text r.forge), ("product", .text r.product), ("version", .text r.version),
    ("generator", .text r.generator)] ++ time ++ [
    ("cha", Hierarchy.toJson r.hierarchy), ("depset", Dependencies.toJson r.dependencies),
    ("graph", r.calls.toJson)])

/-- Every id that is written as a text is short enough. -/
def hasWritableIds (r : Revision) : Bool :=
  (r.hierarchy.methodEntries.all fun m ↦ Text.isWritable m.1) &&
    r.calls.external.keys.all fun k ↦ Text.isWritable k.source

/-- The text of a revision. -/
def encode (r : Revision) : Result String :=
  if r.hasWritableIds then
    match r.toJson.write? .compact with
    | some text => .ok text
    | none => .error (.conversion .tooManyDigitsToWrite)
  else .error (.conversion .tooManyDigitsToWrite)

/-! ## Reading -/

/-- How messages call the document. -/
def context : String := "revision call graph"

/-- What names the release and the generator: forge, product, version and generator. -/
def headerOfJson (data : Json) : Result (String × String × String × String) := do
  let forge ← data.textField "forge" context
  let product ← data.textField "product" context
  let version ← data.textField "version" context
  let generator ← data.textField "generator" context
  return (forge, product, version, generator)

/-- The time, unknown where the document does not give it. -/
def timeOfJson (data : Json) : Result Int :=
  match data.member? "timestamp" with
  | none => .ok unknownTime
  | some _ => data.integerField "timestamp" context

/-- Reads the parts of a revision, which need not fit together. -/
def partsOfJson (data : Json) : Result Parts := do
  let (forge, product, version, generator) ← headerOfJson data
  let time ← timeOfJson data
  let dependencies ← Dependencies.ofItems (← data.arrayField "depset" context)
  let hierarchy ← Hierarchy.ofMembers (← data.objectField "cha" context)
  let calls ← CallGraph.ofJson (← data.field "graph" .object context)
  return { forge, product, version, generator, time, dependencies, hierarchy, calls }

/-- The revision that a document holds. -/
def ofJson (data : Json) : Result Revision := do
  (← partsOfJson data).revision

/-- What there is to say about the time of a document: that it is not given, once the fields before
it are in order, and that it is negative, once all fields are. -/
def notices (data : Json) : List Notice :=
  let absent := match headerOfJson data, data.member? "timestamp" with
    | .ok _, none => [.warning s!"No timestamp provided: assuming {unknownTime}"]
    | _, _ => []
  let negative := match partsOfJson data with
    | .ok parts => parts.notices
    | .error _ => []
  absent ++ negative

/-- The document in a text. -/
def readJson (text : String) : Result Json :=
  match Json.read text with
  | .ok data => .ok data
  | .error e => .error (e.fault .revisionNotJson)

/-- The document in the bytes of a text, in a charset that the bytes tell. -/
def readBytes (bytes : Text.Bytes) : Result Json :=
  match Text.decodeDetected bytes with
  | .error e => .error (.conversion (.undecodable e))
  | .ok text => match Json.readUnmarked text with
    | .ok data => .ok data
    | .error e => .error (e.fault .revisionNotJson)

/-- The revision that a text holds. -/
def decode (text : String) : Result Revision := do
  ofJson (← readJson text)

/-- The revision that bytes hold. -/
def decodeBytes (bytes : Text.Bytes) : Result Revision := do
  ofJson (← readBytes bytes)

end Revision

end RevisionGraph
