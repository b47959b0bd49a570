import RevisionGraph.OrderedMap
import RevisionGraph.Execution.Programs
import RevisionGraph.Text.Blank
import RevisionGraph.Text.Lines
import RevisionGraph.Text.Utf8

/-!
# Files of variables

A file of variables has a binding on each line: a name, perhaps in single quotes and perhaps after
the word `export`, an equals sign and a value.  Comments start with a number sign.

* **Values** go to the end of the line, or are quoted and may then go over several lines.
* **References** of the form of a name in braces after a dollar sign stand for the value of a
  variable, or for the text after `:-` where there is none.
* **Lines that are no binding** are skipped up to their end.
-/

set_option autoImplicit false

namespace RevisionGraph.Dotenv

/-! ## Bindings -/

/-- The character ends a line. -/
def isLineEnd (c : Char) : Bool := c == '\n' || c == '\r'

/-- The character is blank and ends no line. -/
def isInnerBlank (c : Char) : Bool := Text.isBlank c && !isLineEnd c

/-- Skips blanks up to the end of the line. -/
def skipInnerBlanks (cs : List Char) : List Char := cs.dropWhile isInnerBlank

/-- Skips the rest of the line. -/
def skipLine (cs : List Char) : List Char :=
  (cs.dropWhile fun c ↦ !isLineEnd c).drop 1

/-- Reads a quoted text behind its opening quote; a backslash takes the character behind it along,
so that no quote there ends the text. -/
def takeQuoted (quote : Char) : List Char → Option (List Char × List Char)
  | [] => none
  | '\\' :: c :: rest => (takeQuoted quote rest).map fun (s, rest) ↦ ('\\' :: c :: s, rest)
  | c :: rest =>
    if c = quote then some ([], rest)
    else (takeQuoted quote rest).map fun (s, rest) ↦ (c :: s, rest)

/-- The character that a letter after a backslash stands for inside quotes. -/
def escaped? (quote c : Char) : Option Char :=
  if c = '\\' ∨ c = '\x27' then some c
  else if quote = '\x27' then none
  else if c = '\x22' then some c
  else if c = 'a' then some '\x07'
  else if c = 'b' then some '\x08'
  else if c = 'f' then some '\x0c'
  else if c = 'n' then some '\n'
  else if c = 'r' then some '\r'
  else if c = 't' then some '\t'
  else if c = 'v' then some '\x0b'
  else none

/-- Characters without what escapes them. -/
def unescape (quote : Char) : List Char → List Char
  | '\\' :: c :: rest => match escaped? quote c with
    | some x => x :: unescape quote rest
    | none => '\\' :: unescape quote (c :: rest)
  | c :: rest => c :: unescape quote rest
  | [] => []

/-- Drops a comment that starts after a blank. -/
def dropComment : List Char → List Char
  | [] => []
  | c :: rest =>
    let after := (c :: rest).dropWhile Text.isBlank
    if Text.isBlank c && after.head? == some '#' then [] else c :: dropComment rest

/-- Takes blanks at the end away. -/
def trimEnd (cs : List Char) : List Char := (cs.reverse.dropWhile Text.isBlank).reverse

/-- Reads a value behind its equals sign.  Without quotes it goes up to a comment, which may follow
the first blank already. -/
def takeValue (cs : List Char) : Option (List Char × List Char) :=
  match skipInnerBlanks cs with
  | '\x27' :: rest => (takeQuoted '\x27' rest).map fun (s, rest) ↦ (unescape '\x27' s, rest)
  | '\x22' :: rest => (takeQuoted '\x22' rest).map fun (s, rest) ↦ (unescape '\x22' s, rest)
  | _ =>
    let line := cs.takeWhile fun c ↦ !isLineEnd c
    some (skipInnerBlanks (trimEnd (dropComment line)), cs.drop line.length)

/-- Skips the word `export` and the blanks after it. -/
def skipExport (cs : List Char) : List Char :=
  if "export".toList.isPrefixOf cs then
    let rest := cs.drop 6
    if (skipInnerBlanks rest).length < rest.length then skipInnerBlanks rest else cs
  else cs

/-- Reads a name; a comment has none. -/
def takeName (cs : List Char) : Option (Option (List Char) × List Char) :=
  match cs with
  | '#' :: _ => some (none, cs)
  | '\x27' :: rest =>
    let name := rest.takeWhile (· != '\x27')
    match rest.drop name.length with
    | _ :: after => if name.isEmpty then none else some (some name, after)
    | [] => none
  | _ =>
    let name := cs.takeWhile fun c ↦ c != '=' && c != '#' && !Text.isBlank c
    if name.isEmpty then none else some (some name, cs.drop name.length)

/-- Skips a comment and the end of the line, if nothing else is left on it. -/
def endLine? (cs : List Char) : Option (List Char) :=
  let rest := skipInnerBlanks cs
  let rest := if rest.head? = some '#' then rest.dropWhile fun c ↦ !isLineEnd c else rest
  match rest with
  | [] => some []
  | '\r' :: '\n' :: rest => some rest
  | c :: rest => if isLineEnd c then some rest else none

/-- A name with its value, if it has one. -/
abbrev Binding := String × Option String

/-- What one line is: what it binds, if anything, and what follows it. -/
def takeBinding (cs : List Char) : Option Binding × List Char :=
  match takeName (skipExport cs) with
  | none => (none, skipLine (skipExport cs))
  | some (name, rest) =>
    let rest := skipInnerBlanks rest
    let valued : Option (Option (List Char)) × List Char := match rest with
      | '=' :: rest => match takeValue rest with
        | some (value, rest) => (some (some value), rest)
        | none => (none, rest)
      | rest => (some none, rest)
    match valued with
    | (none, rest) => (none, skipLine rest)
    | (some value, rest) =>
      match endLine? rest with
      | none =>
        let rest := skipInnerBlanks rest
        (none, skipLine rest)
      | some after => (name.map fun n ↦ (String.ofList n, value.map String.ofList), after)

/-- The bindings of a text, at most as many lines as the first argument says. -/
def bindingsFor : Nat → List Char → List Binding
  | 0, _ => []
  | n + 1, cs =>
    match cs.dropWhile Text.isBlank with
    | [] => []
    | start =>
      let (binding, rest) := takeBinding start
      binding.toList ++ bindingsFor n rest

/-- The bindings in a text. -/
def bindings (s : String) : List Binding := bindingsFor (s.length + 1) s.toList

/-! ## References -/

/-- Replaces references to variables. -/
def substituteFor (value : String → Option String) : Nat → List Char → List Char
  | 0, cs => cs
  | _ + 1, [] => []
  | n + 1, '$' :: '\x7b' :: rest =>
    let name := rest.takeWhile fun c ↦ c != '\x7d' && c != ':'
    let filled (fallback : List Char) (after : List Char) :=
      (match value (String.ofList name) with
        | some s => s.toList
        | none => fallback) ++ substituteFor value n after
    match rest.drop name.length with
    | '\x7d' :: after => filled [] after
    | ':' :: '-' :: more =>
      let fallback := more.takeWhile (· != '\x7d')
      match more.drop fallback.length with
      | _ :: after => filled fallback after
      | [] => '$' :: substituteFor value n ('\x7b' :: rest)
    | _ => '$' :: substituteFor value n ('\x7b' :: rest)
  | n + 1, c :: rest => c :: substituteFor value n rest

/-- Adds a binding to those before it, its references replaced by earlier bindings and by the
variables of the process; a name without value is empty. -/
def resolve (environment : Execution.Environment) (known : OrderedMap String (Option String))
    (b : Binding) : OrderedMap String (Option String) :=
  let value (name : String) : Option String :=
    match known.find? name with
    | some bound => some (bound.getD "")
    | none => environment.find? name
  known.insert b.1 <| b.2.map fun s ↦
    String.ofList (substituteFor value (s.length + 1) s.toList)

/-- The text without a byte order mark in front. -/
def withoutMark (s : String) : String :=
  match s.toList with
  | '\ufeff' :: rest => String.ofList rest
  | _ => s

/-- The variables that a text binds. -/
def read (environment : Execution.Environment) (s : String) : OrderedMap String (Option String) :=
  (bindings (Text.normalise (withoutMark s))).foldl (resolve environment) .empty

end RevisionGraph.Dotenv
