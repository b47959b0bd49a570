import RevisionGraph.Engine.Producer
import RevisionGraph.Maven.Record
import RevisionGraph.Publisher.Basic
import RevisionGraph.Revision.Wire
import RevisionGraph.Telemetry.Journal

/-!
# The worker

A `Worker` takes the texts of release records one at a time.  For each it makes the call graph of
the release, and publishes it under the uri of the revision if it has an edge.  Whatever goes wrong
with a record is the matter of that record alone: it is noted, nothing is tried again, and the next
record starts afresh.

* **One record.**  `Worker.consume` deals with a record and gives a `Consumption`: the revision, if
  one was made, and what went wrong.  The faults of records have texts here; what becomes of one
  that cannot be asked for its text is told along with the `Standing` of a worker.
* **Watching.**  Each record leaves entries in the journal: notices, the spans `generate` and
  `publish`, and one step of exactly one of the counters `generated`, `empty` and `failed`, or of
  `generated` and `failed` both where a graph was made and could not be handed over.
-/

set_option autoImplicit false

namespace RevisionGraph

open Telemetry

/-- What stays the same for all records. -/
structure Worker (σ : Type) where
  producer : Producer (Engine.Site σ)
  settings : Settings
  /-- where relative paths start -/
  directory : Place

/-- What became of a record. -/
structure Consumption where
  /-- the revision that was made, published or not -/
  revision : Option Revision
  /-- what went wrong -/
  failure : Option Fault

namespace Consumption

/-- Nothing went wrong. -/
def isSuccessful (c : Consumption) : Bool := c.failure.isNone

/-- A failure as an object for other programs. -/
def failureJson (e : Fault) : Json :=
  .object [("plugin", .text "CallGraphPlugin"), ("msg", .text e.message),
    ("trace", .array [.text (e.category.name ++ ": " ++ e.message ++ "\n")]),
    ("type", .text e.category.name)]

/-- The text of what went wrong; empty if nothing did. -/
def failureText (c : Consumption) : String :=
  match c.failure with
  | some e => (failureJson e).write .spaced
  | none => ""

end Consumption

namespace Worker

variable {σ : Type}

/-- What a worker changes as it goes. -/
structure State (σ : Type) where
  site : Engine.Site σ
  publisher : Publisher

/-! ## What it is called -/

/-- The name under which the worker is known. -/
def name : String := "callgraph_worker.plugin.CallGraphPlugin"

/-- What the worker does, in words. -/
def description (w : Worker σ) : String :=
  "Generates call graphs for Java packages using " ++ w.producer.generator

/-- The topics that records come from. -/
def consumerTopics (w : Worker σ) : List String := [w.settings.consumeTopic]

/-- The topic that call graphs go to. -/
def producerTopic (w : Worker σ) : String :=
  match w.settings.produceTopic with
  | some topic => if topic.isEmpty then ownTopic else topic
  | none => ownTopic
where
  /-- the topic named for the generator -/
  ownTopic : String := Text.lower w.producer.generator ++ "_callgraphs"

/-! ## Counters -/

/-- Counts the call graphs that have an edge. -/
def generatedCounter : String := "callgraph.generated"

/-- Counts the call graphs that have none. -/
def emptyCounter : String := "callgraph.empty"

/-- Counts the records that could not be processed. -/
def failedCounter : String := "callgraph.failed"

/-- A step of a counter that tells generators apart. -/
def tickFor (w : Worker σ) (counter : String) : Entry :=
  .tick ⟨counter, .ofList [("generator", .text w.producer.generator)]⟩

/-- A step of the counter of failures, which tells their kinds apart. -/
def failureTick (e : Fault) : Entry :=
  .tick ⟨failedCounter, .ofList [("error.type", .text e.category.name)]⟩

/-! ## Making a call graph -/

/-- Makes the call graph of the release that a record announces. -/
def generate (w : Worker σ) (site : Engine.Site σ) (c : Coordinate) (record : Json) :
    Engine.Site σ × Result Revision × Journal :=
  let span := Span.ofOperation "generate" c.text w.producer.generator
  match ReleaseRecord.releaseTime record with
  | .error e => (site, .error e, [.span span.fail])
  | .ok time =>
    let (site, production) := w.producer.produce site c time
    let said := Journal.ofNotices production.notices
    match production.result with
    | .error e => (site, .error e, said ++ [.span span.fail])
    | .ok r =>
      let span := (span.put "callgraph.internal_calls" (.int r.calls.internal.length)).put
        "callgraph.external_calls" (.int r.calls.external.size)
      (site, .ok r, said ++ [.span span])

/-! ## Publishing it -/

/-- Hands a revision to the publisher; the delivery is what its callback hears. -/
def publish (w : Worker σ) (s : State σ) (r : Revision) : State σ × Result Delivery × Journal :=
  let span := Span.ofOperation "publish" r.uri w.producer.generator
  match r.encode with
  | .error e => (s, .error e, [.span span.fail])
  | .ok text =>
    let (publisher, d, result) :=
      s.publisher.send s.site.files.disk w.directory ⟨w.producerTopic, r.uri, text⟩
    let s : State σ := ⟨{ s.site with files := d.files }, publisher⟩
    match result with
    | .error e => (s, .error e, [.span span.fail])
    | .ok .delivered => (s, .ok .delivered, [.span span])
    | .ok (.failed e) =>
      (s, .ok (.failed e),
        [.notice (.error ("Failed to publish " ++ r.uri ++ ": " ++ e.message)), .span span])

/-! ## One record -/

/-- Calls in the order in which they are published. -/
def arrange (w : Worker σ) (r : Revision) : Revision :=
  if w.settings.canonicalizeInternalCalls then r.sortInternal else r

/-- Deals with the call graph of a release: one without edges goes nowhere. -/
def dispatch (w : Worker σ) (s : State σ) (c : Coordinate) (r : Revision) (publishing : Bool) :
    State σ × Result (Revision × Delivery) × Journal :=
  if r.isEmpty then
    (s, .ok (r, .delivered),
      [.notice (.warning ("Empty call graph for " ++ c.text)), w.tickFor emptyCounter])
  else
    let made := [.notice (.info ("Call graph successfully generated for " ++ c.text ++ "!")),
      w.tickFor generatedCounter]
    let r := w.arrange r
    if publishing then
      let (s, result, journal) := w.publish s r
      (s, result.map fun delivery ↦ (r, delivery), made ++ journal)
    else (s, .ok (r, .delivered), made)

/-- Reads a record, makes the call graph of its release and deals with it. -/
def handle (w : Worker σ) (s : State σ) (text : String) (publishing : Bool) :
    State σ × Result (Revision × Delivery) × Journal :=
  match ReleaseRecord.parse text with
  | .error e => (s, .error e, [])
  | .ok record => match Coordinate.ofRecord record with
    | .error e => (s, .error e, [])
    | .ok c =>
      let start := Entry.notice (.info ("Generating call graph for " ++ c.text))
      let (site, result, journal) := w.generate s.site c record
      let s := { s with site }
      match result with
      | .error e => (s, .error e, start :: journal)
      | .ok r =>
        let (s, result, more) := w.dispatch s c r publishing
        (s, result, start :: journal ++ more)

/-- Deals with the text of a record, whatever is wrong with it. -/
def consume (w : Worker σ) (s : State σ) (text : String) (publishing : Bool) :
    State σ × Consumption × Journal :=
  match w.handle s text publishing with
  | (s, .ok (r, .delivered), journal) => (s, ⟨some r, none⟩, journal)
  | (s, .ok (r, .failed e), journal) => (s, ⟨some r, some e⟩, journal)
  | (s, .error e, journal) =>
    (s, ⟨none, some e⟩,
      journal ++ [failureTick e, .notice (.error ("Failed to process record: " ++ text))])

end Worker

end RevisionGraph
