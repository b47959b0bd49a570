import RevisionGraph.Revision.Basic

/-!
# Drafts of revisions

A `Draft` collects the fields of a revision in any order.  `build` makes the revision once the
fields that name it are there and not empty; the draft can be changed and built again.
-/

set_option autoImplicit false

namespace RevisionGraph

/-- A revision in the making, in which fields may be missing. -/
structure Draft where
  forge : Option String := none
  product : Option String := none
  version : Option String := none
  generator : Option String := none
  time : Int := Revision.unknownTime
  dependencies : Dependencies := []
  hierarchy : Hierarchy := .empty
  calls : CallGraph := .empty

namespace Draft

/-- Nothing is known yet. -/
def empty : Draft := {}

/-- The names of the fields that are missing or empty. -/
def missing (d : Draft) : List String :=
  let fields := [
    ("forge", d.forge), ("product", d.product), ("version", d.version), ("generator", d.generator)]
  (fields.filter fun f ↦ f.2.getD "" == "").map Prod.fst

/-- The parts of the revision, if none is missing. -/
def parts (d : Draft) : Result Revision.Parts :=
  if d.missing.isEmpty then
    .ok {
      forge := d.forge.getD ""
      product := d.product.getD ""
      version := d.version.getD ""
      generator := d.generator.getD ""
      time := d.time
      dependencies := d.dependencies
      hierarchy := d.hierarchy
      calls := d.calls }
  else .error (.format (.revisionIncomplete d.missing))

/-- Makes the revision, once its fields are there. -/
def build (d : Draft) : Result Revision := do
  (← d.parts).revision

/-- What building has to say about the time. -/
def notices (d : Draft) : List Notice :=
  match d.parts with
  | .ok parts => parts.notices
  | .error _ => []

end Draft

end RevisionGraph
