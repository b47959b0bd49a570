import RevisionGraph.Json.Basic
import RevisionGraph.Notice
import RevisionGraph.OrderedMap

/-!
# Journals

Whoever watches a run sees notices, counters and spans.  A `Journal` holds all three in the order
in which they came about: each entry is a notice, one step of a counter, or a span that ended.

* **Views.**  `Journal.notices`, `Journal.ticks` and `Journal.spans` are the entries of one sort.
* **Counting.**  `Journal.total` is the value of a counter over all attributes, `Journal.totals`
  the value for each set of attributes.
* **Spans.**  `Span.ofOperation` opens the span of an operation; `Span.put` gives it an attribute,
  which needs a name, as all members of its value do.
-/

set_option autoImplicit false

namespace RevisionGraph.Telemetry

/-- What is noted along with an entry, by name. -/
abbrev Attributes := OrderedMap String Json

/-- Attributes in the order of their names. -/
def inNameOrder (a : Attributes) : List (String × Json) :=
  a.entries.mergeSort fun x y ↦ x.1 ≤ y.1

/-! ## Spans -/

/-- A piece of work that is traced. -/
structure Span where
  name : String
  attributes : Attributes
  failed : Bool := false
  deriving DecidableEq

namespace Span

mutual

/-- The value without members that have no name, however deep they are. -/
def namedOnly : Json → Json
  | .array items => .array (namedOnlyItems items)
  | .object members => .object (namedOnlyMembers members)
  | .null => .null
  | .bool b => .bool b
  | .int i => .int i
  | .float x => .float x
  | .text s => .text s

/-- The items of an array without members that have no name. -/
def namedOnlyItems : List Json → List Json
  | [] => []
  | item :: rest => namedOnly item :: namedOnlyItems rest

/-- The members of an object that have a name. -/
def namedOnlyMembers : List (String × Json) → List (String × Json)
  | [] => []
  | (key, value) :: rest =>
    if key.isEmpty then namedOnlyMembers rest
    else (key, namedOnly value) :: namedOnlyMembers rest

end

/-- The greatest number of attributes; a further one takes the place of the oldest. -/
def attributeLimit : Nat := 128

/-- Sets an attribute that has a name; one that is set again counts as new. -/
def put (s : Span) (key : String) (value : Json) : Span :=
  if key.isEmpty then s
  else
    let others := s.attributes.erase key
    let others := match others.entries with
      | (oldest, _) :: _ =>
        if attributeLimit ≤ others.size then others.erase oldest else others
      | [] => others
    { s with attributes := others.insert key (namedOnly value) }

/-- Sets an attribute unless its text is empty. -/
def putText (s : Span) (key text : String) : Span :=
  if text.isEmpty then s else s.put key (.text text)

/-- The work failed. -/
def fail (s : Span) : Span := { s with failed := true }

/-- The attributes of a span in the order of their names. -/
def sortedAttributes (s : Span) : List (String × Json) := inNameOrder s.attributes

/-- The span of one step of the work, on what is named by a coordinate. -/
def ofOperation (operation coordinate generator : String) : Span :=
  let opened : Span := ⟨"callgraph." ++ operation, .empty, false⟩
  ((opened.put "callgraph.operation" (.text operation)).putText
    "callgraph.coordinate" coordinate).putText "callgraph.generator" generator

end Span

/-! ## Entries -/

/-- One step of a counter. -/
structure Tick where
  counter : String
  attributes : Attributes
  deriving DecidableEq

/-- The attributes of a tick in the order of their names. -/
def Tick.sortedAttributes (t : Tick) : List (String × Json) := inNameOrder t.attributes

/-- What stands in a journal. -/
inductive Entry where
  | notice (n : Notice)
  | tick (t : Tick)
  | span (s : Span)
  deriving DecidableEq

/-- What there was to see, in order. -/
abbrev Journal := List Entry

namespace Journal

/-- The journal that holds notices only. -/
def ofNotices (notices : List Notice) : Journal := notices.map Entry.notice

/-- The notices in a journal. -/
def notices (j : Journal) : List Notice :=
  j.filterMap fun
    | .notice n => some n
    | _ => none

/-- The ticks in a journal. -/
def ticks (j : Journal) : List Tick :=
  j.filterMap fun
    | .tick t => some t
    | _ => none

/-- The spans in a journal. -/
def spans (j : Journal) : List Span :=
  j.filterMap fun
    | .span s => some s
    | _ => none

/-! ## Counting -/

/-- The value of a counter over all attributes. -/
def total (j : Journal) (counter : String) : Nat := j.ticks.countP (·.counter == counter)

/-- The value of every counter for every set of attributes, in the order of their first steps. -/
def totals (j : Journal) : List (Tick × Nat) :=
  j.ticks.eraseDups.map fun t ↦ (t, j.ticks.count t)

@[simp] theorem notices_append (j k : Journal) : notices (j ++ k) = notices j ++ notices k :=
  List.filterMap_append

@[simp] theorem ticks_append (j k : Journal) : ticks (j ++ k) = ticks j ++ ticks k :=
  List.filterMap_append

@[simp] theorem spans_append (j k : Journal) : spans (j ++ k) = spans j ++ spans k :=
  List.filterMap_append

theorem total_append (j k : Journal) (counter : String) :
    total (j ++ k) counter = total j counter + total k counter := by
  simp [total, List.countP_append]

end Journal

end RevisionGraph.Telemetry
