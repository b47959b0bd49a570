import RevisionGraph.Simulation.Shell.Pattern

/-!
# Fields of words

A word becomes spans when its expansions are carried out, and the spans become fields: a span that
an expansion outside quotes gave is split at separators, one that holds several arguments at the
gaps between them.

A field is there if it has a character, a quote or a separator behind it.
-/

set_option autoImplicit false

namespace RevisionGraph.Shell

/-- What a span is made of. -/
inductive Cell where
  | char (c : Char) (alone : Bool)
  /-- a quote stood here -/
  | mark
  /-- one argument ends here and another begins -/
  | gap
  deriving DecidableEq, Repr

/-- Where a text is split into fields. -/
inductive Splitting where
  | never
  | atSeparators
  | atGaps
  deriving DecidableEq, Repr

/-- Cells that are split in one way. -/
structure Span where
  splitting : Splitting
  cells : List Cell

/-- What a word comes to. -/
abbrev Field := List Cell

namespace Cell

/-- Characters that stand for themselves alone, or not. -/
def ofText (alone : Bool) (s : String) : List Cell := s.toList.map (.char · alone)

end Cell

namespace Field

/-- The characters of a field, each with whether it stands for itself alone. -/
def chars (f : Field) : List MarkedChar :=
  f.filterMap fun
    | .char c alone => some (c, alone)
    | _ => none

/-- The text of a field. -/
def text (f : Field) : String := String.ofList (f.chars.map Prod.fst)

end Field

namespace Span

/-- What is in quotes, or comes from where nothing is split. -/
def literal (s : String) : Span := ⟨.never, Cell.ofText true s⟩

/-- The text of spans that are not split. -/
def textOf (spans : List Span) : String := Field.text (spans.flatMap Span.cells)

/-- The pattern that spans make. -/
def patternOf (spans : List Span) : Pattern :=
  Pattern.ofChars (Field.chars (spans.flatMap Span.cells))

end Span

/-! ## Splitting -/

/-- The character separates fields and is a blank. -/
def isBlankSeparator (c : Char) : Bool := c = ' ' || c = '\t' || c = '\n'

/-- Where the splitting stands. -/
structure Splitter where
  /-- the newest first -/
  finished : List Field := []
  /-- the field that grows, its last cell first -/
  growing : List Cell := []
  /-- a blank has just ended a field -/
  afterBlank : Bool := false
  /-- the last span that was split was split at gaps -/
  gapsOnly : Bool := false
  /-- how many fields may still be begun, all of them where nothing is said -/
  left : Option Nat := none
  /-- the last field without what may be the blanks at its end -/
  trimmed : Option (List Cell) := none

namespace Splitter

/-- Goes on with the field that is growing. -/
def grow (s : Splitter) (c : Cell) : Splitter := { s with growing := c :: s.growing }

/-- Adds a cell to the last field that may be begun. -/
def addToLast (s : Splitter) (c : Cell) (separates blank : Bool) : Splitter :=
  if blank then { s with trimmed := some (s.trimmed.getD s.growing) }.grow c
  else
    { s with
      trimmed := if separates && s.afterBlank then s.trimmed else none
      afterBlank := false }.grow c

/-- Ends the growing field at a separator. -/
def separate (s : Splitter) (c : Cell) (afterGaps blank : Bool) : Splitter :=
  let afterBlank := if afterGaps || s.gapsOnly then s.afterBlank else blank
  if s.growing.isEmpty && afterBlank then { s with afterBlank := false }
  else
    let s := { s with afterBlank, left := s.left.map (· - 1) }
    if s.left = some 0 then { s with trimmed := some s.growing }.grow c
    else { s with finished := s.growing.reverse :: s.finished, growing := [] }

/-- What a cell does in a span that is split. -/
def step (separators : List Char) (afterGaps : Bool) (s : Splitter) (c : Cell) : Splitter :=
  let separates : Bool := match c with
    | .gap => true
    | .char c _ => !s.gapsOnly && separators.contains c
    | .mark => false
  let blank : Bool := separates && match c with
    | .char c _ => isBlankSeparator c
    | _ => true
  if s.left = some 0 then s.addToLast c separates blank
  else if s.afterBlank then
    if blank then s
    else
      let s := { s with afterBlank := false }
      if separates then s else s.grow c
  else if separates then s.separate c afterGaps blank
  else s.grow c

/-- Takes a span. -/
def add (separators : List Char) (s : Splitter) (span : Span) : Splitter :=
  match span.splitting with
  | .never => span.cells.foldl grow s
  | splitting =>
    let gapsOnly := splitting = .atGaps
    span.cells.foldl (step separators s.gapsOnly) { s with gapsOnly, afterBlank := false }

/-- The fields in the end. -/
def fields (s : Splitter) : List Field :=
  if s.gapsOnly then (s.growing.reverse :: s.finished).reverse
  else
    let last := s.trimmed.getD s.growing
    if last.isEmpty then s.finished.reverse else (last.reverse :: s.finished).reverse

end Splitter

/-- The fields that spans make, at most so many if a number is given; the last of these takes all
that is left. -/
def fieldsOf (separators : List Char) (most : Option Nat) (spans : List Span) : List Field :=
  (spans.foldl (Splitter.add separators) { left := most }).fields

/-! ## Matching paths -/

namespace Field

/-- The field has a character that may stand for others. -/
def isPattern (f : Field) : Bool := f.any fun
  | .char c false => c = '*' || c = '?' || c = '['
  | _ => false

/-- The parts of a field between slashes. -/
def segments (f : Field) : List Field :=
  f.foldr (fun c parts ↦
    if c matches .char '/' _ then [] :: parts
    else match parts with
      | part :: more => (c :: part) :: more
      | [] => [[c]]) [[]]

end Field

end RevisionGraph.Shell
