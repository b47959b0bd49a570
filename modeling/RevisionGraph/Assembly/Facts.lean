import RevisionGraph.Assembly.Basic
import RevisionGraph.Text.Lines

/-!
# Facts

An engine writes what it found as facts, one JSON object a line, in any order:

* `kind` `type`, with `uri`, `sourceFile` and perhaps `superClasses` and `superInterfaces`;
* `kind` `method`, with `type` and `uri`;
* `kind` `call`, with `source`, `target` and `callType`.

Facts of other kinds are skipped.  `applyFacts` reads all lines before it applies any fact, then
applies the types, the methods and the calls, each in the order of the lines.  It stops at the
first fact that cannot be applied and keeps what it applied before.
-/

set_option autoImplicit false

namespace RevisionGraph

namespace Facts

/-- What a fact is about. -/
inductive Kind where
  | type
  | method
  | call
  deriving DecidableEq, Repr

/-- How a fact writes its kind. -/
def Kind.name : Kind → String
  | .type => "type"
  | .method => "method"
  | .call => "call"

/-- How messages call a fact of the kind. -/
def Kind.context (k : Kind) : String := k.name ++ " fact"

/-- The fact is of the kind. -/
def isOfKind (k : Kind) (fact : Json) : Bool := fact.member? "kind" == some (.text k.name)

/-! ## Reading lines -/

/-- The fact on a line, which is an object; `number` is the number of the line. -/
def ofLine (number : Nat) (line : String) : Result Json :=
  match Json.read line with
  | .error e => .error (e.fault (.factNotJson number))
  | .ok fact =>
    if Json.Kind.object.admits fact then .ok fact else Json.wrongShape (.factNotObject number)

/-- The facts on lines that are not blank, the lines being numbered from `number`. -/
def ofLines : Nat → List String → Result (List Json)
  | _, [] => .ok []
  | number, line :: rest =>
    let body := Text.trim line
    if body = "" then ofLines (number + 1) rest
    else do
      let fact ← ofLine number body
      return fact :: (← ofLines (number + 1) rest)

/-- The facts that count, in the order in which they are applied. -/
def inOrder (facts : List Json) : List Json :=
  facts.filter (isOfKind .type) ++ facts.filter (isOfKind .method) ++ facts.filter (isOfKind .call)

/-! ## Reading facts -/

/-- The ancestors under a key of a type fact: the items of a list, the characters of a text, the
keys of an object, or none where the key is missing. -/
def ancestors (key : String) (fact : Json) : Result (List Identifier) :=
  match fact.member? key with
  | none => .ok []
  | some (.array items) => items.mapM Identifier.ofJson
  | some (.text s) => s.toList.mapM fun c ↦ Identifier.ofText (String.singleton c)
  | some (.object members) => members.mapM fun m ↦ Identifier.ofText m.1
  | some value => .error (.conversion (.notIterable value))

/-- An identifier under a key of a fact. -/
def identifierField (k : Kind) (key : String) (fact : Json) : Result Identifier := do
  Identifier.ofText (← fact.textField key k.context)

/-- What a type fact names, and what it says of it. -/
def readType (fact : Json) : Result (Identifier × TypeInfo) := do
  let name ← identifierField .type "uri" fact
  let sourceFile ← fact.textField "sourceFile" Kind.type.context
  let superClasses ← ancestors "superClasses" fact
  let superInterfaces ← ancestors "superInterfaces" fact
  return (name, ⟨sourceFile, .empty, superClasses, superInterfaces⟩)

/-- The type and the method that a method fact names. -/
def readMethod (fact : Json) : Result (Identifier × Identifier) := do
  let type ← identifierField .method "type" fact
  let method ← identifierField .method "uri" fact
  return (type, method)

/-- The call that a call fact reports. -/
def readCall (fact : Json) : Result CallSite := do
  let source ← identifierField .call "source" fact
  let target ← identifierField .call "target" fact
  let callType ← fact.textField "callType" Kind.call.context
  return ⟨source, target, callType⟩

/-! ## Applying facts -/

/-- Applies one fact. -/
def apply (a : Assembly) (fact : Json) : Assembly × Result Unit :=
  if isOfKind .type fact then match readType fact with
    | .error e => (a, .error e)
    | .ok (name, info) =>
      (a.addType name info.sourceFile info.superClasses info.superInterfaces, .ok ())
  else if isOfKind .method fact then match readMethod fact with
    | .error e => (a, .error e)
    | .ok (type, method) =>
      let (a, result) := a.addMethod type method
      (a, result.map fun _ ↦ ())
  else if isOfKind .call fact then match readCall fact with
    | .error e => (a, .error e)
    | .ok c => (a.addCall c.source c.target c.callType, .ok ())
  else (a, .ok ())

/-- Applies facts up to the first that fails. -/
def applyAll : Assembly → List Json → Assembly × Result Unit
  | a, [] => (a, .ok ())
  | a, fact :: rest =>
    match apply a fact with
    | (a, .error e) => (a, .error e)
    | (a, .ok _) => applyAll a rest

end Facts

namespace Assembly

/-- Applies the facts on lines, and counts them. -/
def applyFacts (a : Assembly) (lines : List String) : Assembly × Result Nat :=
  match Facts.ofLines 1 lines with
  | .error e => (a, .error e)
  | .ok facts =>
    let counted := Facts.inOrder facts
    let (a, result) := Facts.applyAll a counted
    (a, result.map fun _ ↦ counted.length)

/-- Applies the facts in a file.  If it is no text, the lines before are read first. -/
def loadFacts (a : Assembly) (file : Text.Bytes) : Assembly × Result Nat :=
  match Text.decodeFile file with
  | .ok text => a.applyFacts (Text.lines text)
  | .error e => match Facts.ofLines 1 (Text.linesSoFar e.before) with
    | .error fault => (a, .error fault)
    | .ok _ => (a, .error (.conversion (.undecodable e.cause)))

end Assembly

end RevisionGraph
