import RevisionGraph.Engine.FieldValue

/-!
# Templates

A template is a text with fields in braces; a doubled brace is a brace.  A field names one of the
given paths, then perhaps parts of it, each behind a point, and entries of these in brackets, then
perhaps a conversion behind an exclamation mark and a layout behind a colon.

* **Pieces.**  `pieces` cuts a template up to the first place that cannot be read, which is a piece
  of its own.
* **Order.**  `fill` writes the pieces in their order, so a field that cannot be filled is found
  before a later place that cannot be read.  Within a field, the value comes before its conversion,
  and this before the layout.
* **Layouts with fields.**  A layout that holds braces is itself a template, filled first.
-/

set_option autoImplicit false

namespace RevisionGraph.Engine

/-! ## Cutting a template -/

/-- What stands in the braces of a field. -/
structure Field where
  name : String
  conversion : Option Char
  layout : String
  deriving DecidableEq, Repr

/-- A part of a template. -/
inductive Piece where
  | literal (c : Char)
  | field (f : Field)
  | unreadable (cause : ConversionFault)
  deriving DecidableEq

/-- Reads the name of a field up to a closing brace, a colon or an exclamation mark; brackets hide
these. -/
def takeName (inBrackets : Bool) :
    List Char → Except ConversionFault (List Char × Char × List Char)
  | [] => .error .unclosedField
  | c :: rest =>
    let more (inBrackets : Bool) := do
      let (name, stop, rest) ← takeName inBrackets rest
      return (c :: name, stop, rest)
    if inBrackets then more (c != ']')
    else if c = '\x7b' then .error (.badField "unexpected '\x7b' in field name")
    else if c = '\x7d' ∨ c = ':' ∨ c = '!' then .ok ([], c, rest)
    else more (c == '[')

/-- Reads a layout up to the brace that closes the field; `depth` braces are open inside it. -/
def takeLayout : Nat → List Char → Except ConversionFault (List Char × List Char)
  | _, [] => .error (.badField "unmatched '\x7b' in format spec")
  | depth, c :: rest => do
    if c = '\x7d' then
      match depth with
      | 0 => return ([], rest)
      | depth + 1 =>
        let (layout, rest) ← takeLayout depth rest
        return (c :: layout, rest)
    else
      let (layout, rest) ← takeLayout (if c = '\x7b' then depth + 1 else depth) rest
      return (c :: layout, rest)

/-- Reads a field behind its opening brace. -/
def takeField (cs : List Char) : Except ConversionFault (Field × List Char) := do
  let (name, stop, rest) ← takeName false cs
  let name := String.ofList name
  if stop = '\x7d' then return (⟨name, none, ""⟩, rest)
  else if stop = ':' then
    let (layout, rest) ← takeLayout 0 rest
    return (⟨name, none, String.ofList layout⟩, rest)
  else match rest with
    | [] => throw (.badField "end of string while looking for conversion specifier")
    | conversion :: '\x7d' :: rest => return (⟨name, some conversion, ""⟩, rest)
    | conversion :: ':' :: rest =>
      let (layout, rest) ← takeLayout 0 rest
      return (⟨name, some conversion, String.ofList layout⟩, rest)
    | [_] => throw (.badField "unmatched '\x7b' in format spec")
    | _ => throw (.badField "expected ':' after conversion specifier")

/-- Cuts at most as many pieces as the first argument says. -/
def piecesFor : Nat → List Char → List Piece
  | 0, _ => []
  | _ + 1, [] => []
  | n + 1, '\x7b' :: '\x7b' :: rest => .literal '\x7b' :: piecesFor n rest
  | n + 1, '\x7d' :: '\x7d' :: rest => .literal '\x7d' :: piecesFor n rest
  | n + 1, c :: rest =>
    if c = '\x7d' then [.unreadable .loneClosingBrace]
    else if c = '\x7b' then
      if rest.isEmpty then [.unreadable .loneOpeningBrace]
      else match takeField rest with
        | .error cause => [.unreadable cause]
        | .ok (field, rest) => .field field :: piecesFor n rest
    else .literal c :: piecesFor n rest

/-- The pieces of a template. -/
def pieces (template : String) : List Piece := piecesFor template.length template.toList

/-! ## What fields stand for -/

/-- The number that a name is, if it is one; digits of any script count. -/
def positionOf? (name : List Char) : Except ConversionFault (Option Nat) :=
  match Text.takeNumber name with
  | .ok (found, rest) => .ok (if rest.isEmpty then found else none)
  | .error e => .error (.layout e)

/-- The value that the first part of a name stands for.  No value has a position. -/
def lookUp (values : List (String × Path)) (name : List Char) :
    Except ConversionFault FieldValue := do
  let position ← positionOf? name
  if name.isEmpty then throw (.positionalField 0)
  else match position with
    | some index => throw (.positionalField index)
    | none => match values.find? fun v ↦ v.1 == String.ofList name with
      | some v => return .path v.2
      | none => throw (.unknownField (String.ofList name))

/-- The characters of a name that stand before a point or an opening bracket. -/
def takeSegment (cs : List Char) : List Char := cs.takeWhile fun c ↦ c != '.' && c != '['

/-- Goes from a value to its parts and entries, step by step. -/
def follow (v : FieldValue) (cs : List Char) : Except ConversionFault FieldValue :=
  match cs with
  | [] => .ok v
  | '.' :: rest =>
    let name := takeSegment rest
    if name.isEmpty then .error (.badField "Empty attribute in format string")
    else do follow (← v.part (String.ofList name)) (rest.drop name.length)
  | '[' :: rest =>
    let index := rest.takeWhile (· != ']')
    match rest.drop index.length with
    | [] => .error (.badField "Missing ']' in format string")
    | _ :: _ => do
      let position ← positionOf? index
      if index.isEmpty then throw (.badField "Empty attribute in format string")
      let entry ← match position with
        | some position => v.entry position
        | none => throw v.namedEntry
      follow entry (rest.drop (index.length + 1))
  | _ => .error (.badField "Only '.' or '[' may follow ']' in format field specifier")
termination_by cs.length
decreasing_by all_goals simp only [List.length_cons, List.length_drop]; omega

/-- The value that a name with parts stands for. -/
def valueOf (values : List (String × Path)) (name : String) :
    Except ConversionFault FieldValue := do
  let first := takeSegment name.toList
  follow (← lookUp values first) (name.toList.drop first.length)

/-- The value as a conversion shows it; NUL is the conversion that changes nothing. -/
def convert (v : FieldValue) : Option Char → Except ConversionFault FieldValue
  | none | some '\x00' => .ok v
  | some 's' => .ok (.text v.toText)
  | some 'r' => .ok (.text v.display)
  | some 'a' => .ok (.text (Text.asciiOnly v.display))
  | some letter => .error (.unknownConversion letter)

/-! ## Filling it in -/

/-- The text of a template whose layouts hold fields up to a depth. -/
def fillTo (values : List (String × Path)) : Nat → String → Except ConversionFault String
  | 0, _ => .error (.badField "Max string recursion exceeded")
  | depth + 1, template => do
    let texts ← (pieces template).mapM fun
      | .literal c => pure (String.singleton c)
      | .unreadable cause => throw cause
      | .field f => do
        let value ← convert (← valueOf values f.name) f.conversion
        let layout ←
          if f.layout.toList.contains '\x7b' then fillTo values depth f.layout else pure f.layout
        value.arrange layout
    return String.join texts

/-- The text of a template with values for its fields; the layout of a field may hold fields, whose
layouts hold none. -/
def fill (values : List (String × Path)) (template : String) : Result String :=
  match fillTo values 2 template with
  | .ok text => .ok text
  | .error cause => .error (.conversion cause)

end RevisionGraph.Engine
