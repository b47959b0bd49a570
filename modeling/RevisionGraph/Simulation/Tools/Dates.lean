import RevisionGraph.Simulation.Calendar.Reader
import RevisionGraph.Simulation.Tools.Options

/-!
# Dates

`date` shows a moment: now, what a text means, or when a file was changed.
-/

set_option autoImplicit false

namespace RevisionGraph.Tools

open RevisionGraph.System ToolM

/-- Layouts by the precision that they have. -/
def isoLayouts : List (String × String) := [
  ("hours", "%Y-%m-%dT%H%:z"), ("minutes", "%Y-%m-%dT%H:%M%:z"), ("date", "%Y-%m-%d"),
  ("seconds", "%Y-%m-%dT%H:%M:%S%:z"), ("ns", "%Y-%m-%dT%H:%M:%S,%N%:z")]

/-- Layouts of dates with a space in them. -/
def spacedLayouts : List (String × String) := [
  ("date", "%Y-%m-%d"), ("seconds", "%Y-%m-%d %H:%M:%S%:z"), ("ns", "%Y-%m-%d %H:%M:%S.%N%:z")]

/-- The layout of a precision, which may be cut short. -/
def layoutOf (option : String) (layouts : List (String × String)) (precision : String) :
    ToolM String := do
  match layouts.find? fun l ↦ precision.toList.isPrefixOf l.1.toList with
  | some (_, layout) => return layout
  | none =>
    complain s!"invalid argument ‘{precision}’ for ‘{option}’"
    tell ("Valid arguments are:\n" ++ String.join (layouts.map fun l ↦ s!"  - ‘{l.1}’\n"))
    suggestHelp
    quit 1

/-- Shows a date. -/
def date : Tool := do
  let table := OptionTable.make "d:f:I::r:Rs:u" [("date", 'd'), ("file", 'f'), ("iso-8601", 'I'),
    ("reference", 'r'), ("rfc-email", 'R'), ("rfc-2822", 'R'), ("set", 's'), ("universal", 'u'),
    ("utc", 'u'), ("debug", '!')] true
  let table := { table with names := ("rfc-3339", '3', .always) :: table.names }
  let (given, operands) ← options table 1
  let now : Nat ← ask .clock
  let chosen := given.filter fun o ↦ ['d', 'f', 'r', 's'].contains o.1
  if 1 < (chosen.map Prod.fst).eraseDups.length then
    misuse 1 "the options to specify dates for printing are mutually exclusive"
  let layouts ← given.filterMapM fun (letter, value) ↦ do
    match letter with
    | 'I' => return some (← layoutOf "--iso-8601" isoLayouts (value.getD "date"))
    | 'R' => return some "%a, %d %b %Y %H:%M:%S %z"
    | '3' => return some (← layoutOf "--rfc-3339" spacedLayouts (value.getD ""))
    | _ => return none
  if 1 < operands.length then misuse 1 s!"extra operand {quotedOf operands 1}"
  let asked ← match operands with
    | [operand] =>
      match operand.toList with
      | '+' :: layout =>
        if !layouts.isEmpty then abort 1 "multiple output formats specified"
        pure (some (String.ofList layout))
      | _ =>
        if chosen.isEmpty then abort 1 s!"invalid date ‘{operand}’"
        misuse 1 (s!"the argument ‘{operand}’ lacks a leading '+';\n" ++
          "when using an option to specify date(s), any non-option\n" ++
          "argument must be a format string beginning with '+'")
    | _ => pure none
  if 1 < layouts.length then abort 1 "multiple output formats specified"
  let layout := asked.getD (layouts.headD "%a %b %e %H:%M:%S %Z %Y")
  let show_ (t : Int) : ToolM Unit := printLine (Calendar.format layout t)
  match chosen.getLast? with
  | some ('r', some path) =>
    match ← look path true with
    | .ok l => show_ l.time
    | .error cause => abort 1 s!"{path}: {reason cause}"
    return 0
  | some ('f', some path) =>
    match ← withInput path fun fd ↦ eachLine fd 0 fun status line ↦ do
        match Calendar.readMoment? now line.text with
        | some t =>
          show_ t
          return (status, true)
        | none =>
          complain s!"invalid date ‘{line.text}’"
          return (1, true) with
    | .ok status => return status
    | .error cause => abort 1 s!"{path}: {reason cause}"
  | some (_, some text) =>
    match Calendar.readMoment? now text with
    | some t => show_ t
    | none => abort 1 s!"invalid date ‘{text}’"
    return 0
  | _ =>
    show_ now
    return 0

end RevisionGraph.Tools
