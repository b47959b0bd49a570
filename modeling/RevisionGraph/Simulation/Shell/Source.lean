import RevisionGraph.Simulation.Shell.Script

/-!
# The text of a script while it is read

A `Source` is what is left of the text of a script, with what the reading of it depends on: the
line, the aliases, and the documents that the current line has asked for.

`ReaderM` is a step of reading: it moves on in the source and gives a value or says why the text is
no script.
-/

set_option autoImplicit false

namespace RevisionGraph.Shell

/-- A part of a script. -/
inductive Token where
  /-- a word, and whether a quote or a backslash stood in it -/
  | word (w : Word) (quoted : Bool)
  | redirect (fd : Option Nat) (operator : String)
  | operator (s : String)
  | keyword (s : String)
  | newline
  | finish

/-- What ends a document, and how it is read. -/
structure Delimiter where
  text : List Char
  /-- quotes in the delimiter keep expansions from being carried out -/
  literal : Bool
  /-- tabs at the start of lines are no part of the document -/
  stripped : Bool

/-- A script that is being read. -/
structure Source where
  rest : List Char
  line : Nat := 1
  pushedBack : Option Token := none
  /-- how many documents were asked for so far -/
  asked : Nat := 0
  /-- the documents that the line has asked for, with their numbers -/
  due : List (Nat × Delimiter) := []
  /-- documents that are known beforehand, by their numbers -/
  known : List (Nat × Word) := []
  /-- the documents that were found -/
  found : List (Nat × Word) := []
  aliases : List (String × String) := []
  /-- the aliases whose text is being read, each with what is left behind its text -/
  running : List (String × Nat) := []
  /-- where words stand that an alias with a blank at its end lets be aliases, too -/
  eager : List Nat := []
  /-- the reading depends on whether the text goes on -/
  touched : Bool := false

/-- Reads a script. -/
abbrev ReaderM := ExceptT String (StateM Source)

namespace ReaderM

/-- The next character. -/
def next : ReaderM (Option Char) := do
  let s ← get
  match s.rest with
  | c :: rest =>
    set { s with rest }
    return some c
  | [] =>
    set { s with touched := true }
    return none

/-- Puts a character back. -/
def unread (c : Option Char) : ReaderM Unit :=
  modify fun s ↦ match c with
    | some c => { s with rest := c :: s.rest }
    | none => s

/-- A backslash before a line end joins two lines; what follows the joints, and the line there. -/
def joints (line : Nat) : List Char → Nat × List Char
  | '\\' :: '\n' :: rest => joints (line + 1) rest
  | cs => (line, cs)

/-- The next character behind joints. -/
def nextJoined : ReaderM (Option Char) := do
  modify fun s ↦
    let (line, rest) := joints s.line s.rest
    { s with line, rest, touched := s.touched || rest matches ['\\'] }
  next

/-- The next line begins. -/
def newline : ReaderM Unit := modify fun s ↦ { s with line := s.line + 1 }

/-- The characters at the front, as long as they are of a kind. -/
def takeJoined (kind : Char → Bool) : Nat → ReaderM (List Char)
  | 0 => return []
  | n + 1 => do
    match ← nextJoined with
    | none => return []
    | some c =>
      if kind c then return c :: (← takeJoined kind n)
      else
        unread (some c)
        return []

end ReaderM

/-! ## Parts that grow -/

/-- Adds a character to a word whose last part stands first. -/
def pushChar (w : Word) (c : Char) (quoted : Bool) : Word :=
  match w with
  | .text s q :: more =>
    if q = quoted then .text (s.push c) q :: more else .text (String.singleton c) quoted :: w
  | _ => .text (String.singleton c) quoted :: w

/-- Adds a text to a word whose last part stands first. -/
def pushText (w : Word) (s : String) (quoted : Bool) : Word :=
  match w with
  | .text t q :: more =>
    if q = quoted then .text (t ++ s) q :: more else .text s quoted :: w
  | _ => .text s quoted :: w

/-! ## Tokens in messages -/

/-- The words that make up commands. -/
def reservedWords : List String :=
  ["!", "case", "do", "done", "elif", "else", "esac", "fi", "for", "if", "in", "then", "until",
    "while", "\x7b", "\x7d"]

/-- A token as messages show it. -/
def inQuotes (s : String) : String := "\x22" ++ s ++ "\x22"

/-- How a message names a token. -/
def Token.shown : Token → String
  | .word _ _ => "word"
  | .redirect _ _ => "redirection"
  | .operator s | .keyword s => inQuotes s
  | .newline => "newline"
  | .finish => "end of file"

/-- Messages about tokens are at most this long. -/
def messageLimit : Nat := 63

/-- Refuses a token. -/
def unexpected {α : Type} (t : Token) : ReaderM α :=
  throw (String.ofList ((t.shown ++ " unexpected").toList.take messageLimit))

/-- Refuses a token where another is due. -/
def lacking {α : Type} (t : Token) (due : String) : ReaderM α :=
  throw (String.ofList ((t.shown ++ " unexpected (expecting " ++ due ++ ")").toList.take messageLimit))

/-! ## Documents -/

/-- What stands behind a line that ends a document, if such a line stands at the front. -/
def Delimiter.end? (d : Delimiter) (cs : List Char) : Option (List Char) :=
  let cs := if d.stripped then cs.dropWhile (· == '\t') else cs
  if d.text.isPrefixOf cs then
    match cs.drop d.text.length with
    | [] => some []
    | '\n' :: rest => some ('\n' :: rest)
    | _ => none
  else none

/-- The lines up to the one that ends a document, without reading what they hold; with them what
stands behind that line, the line feed included. -/
def Delimiter.lines (d : Delimiter) : Nat → List Char → List Char × List Char
  | 0, cs => ([], cs)
  | n + 1, cs =>
    match d.end? cs with
    | some rest => ([], rest)
    | none =>
      let cs := if d.stripped then cs.dropWhile (· == '\t') else cs
      let line := cs.takeWhile (· != '\n')
      match cs.drop line.length with
      | [] => (line, [])
      | _ :: rest =>
        let (more, rest) := d.lines n rest
        (line ++ '\n' :: more, rest)

/-- The source stands at the start of a line of a document: tabs that do not count are skipped, and
the answer says whether the document ends here. -/
def ReaderM.atEnd (d : Delimiter) : ReaderM Bool := do
  let s ← get
  match d.end? s.rest with
  | some rest =>
    set { s with
      rest := rest.drop 1, line := s.line + (if rest.isEmpty then 0 else 1)
      touched := s.touched || rest.isEmpty }
    return true
  | none =>
    if d.stripped then set { s with rest := s.rest.dropWhile (· == '\t') }
    return false

end RevisionGraph.Shell
