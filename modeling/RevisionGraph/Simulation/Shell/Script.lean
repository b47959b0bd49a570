/-!
# Shell scripts

A `Script` is a shell script as a tree: words with their expansions, simple commands with
assignments and redirections, and the ways to put commands together.

A `Word` is a list of parts.  Each part knows whether it stands in quotes: only what does not is
split into fields and has pattern characters.
-/

set_option autoImplicit false

namespace RevisionGraph.Shell

/-- How an expansion uses the value of its parameter. -/
inductive Modifier where
  | plain
  | length
  /-- another word where the parameter is unset -/
  | use
  /-- another word where it is set -/
  | replace
  | assign
  | demand
  /-- without the shortest or longest start that a pattern matches -/
  | cutStart (longest : Bool)
  /-- without the shortest or longest end that a pattern matches -/
  | cutEnd (longest : Bool)
  /-- there is no such expansion -/
  | bad
  deriving DecidableEq, Repr

/-- What becomes of a descriptor that is redirected. -/
inductive RedirectKind where
  | read
  | write
  /-- also over a file that a switch would keep -/
  | clobber
  | append
  /-- for reading and writing, without a change at first -/
  | both
  /-- the input is a text of the script itself -/
  | document
  /-- another descriptor, for reading or for writing -/
  | copy
  deriving DecidableEq, Repr

mutual

/-- A part of a word. -/
inductive Part where
  | text (s : String) (quoted : Bool)
  /-- a parameter; `alsoEmpty` tells that an empty value counts as none -/
  | parameter (name : String) (modifier : Modifier) (alsoEmpty : Bool) (word : List Part)
      (quoted : Bool)
  | command (body : Script) (quoted : Bool)
  | arithmetic (expression : List Part) (quoted : Bool)

/-- A descriptor that is redirected. -/
inductive Redirect where
  | mk (fd : Nat) (kind : RedirectKind) (target : List Part)

/-- A script. -/
inductive Script where
  | nothing
  | simple (line : Nat) (assignments : List (String × List Part)) (words : List (List Part))
      (redirects : List Redirect)
  | pipeline (commands : List Script)
  | background (body : Script)
  | sequence (first second : Script)
  | andThen (first second : Script)
  | orElse (first second : Script)
  | negation (body : Script)
  | conditional (condition yes no : Script)
  | loop (whileTrue : Bool) (condition body : Script)
  | each (line : Nat) (name : String) (words : Option (List (List Part))) (body : Script)
  | choice (line : Nat) (subject : List Part) (branches : List (List (List Part) × Script))
  | subshell (line : Nat) (body : Script) (redirects : List Redirect)
  | function (name : String) (body : Script)
  | redirected (line : Nat) (body : Script) (redirects : List Redirect)

end

/-- A word, in parts. -/
abbrev Word := List Part

instance : Inhabited Script := ⟨.nothing⟩

/-- What becomes of it. -/
def Redirect.kind : Redirect → RedirectKind
  | .mk _ kind _ => kind

/-! ## Words -/

/-- The text of a word that has no expansion, whatever its quotes. -/
def Word.plain (w : Word) : String :=
  String.join (w.map fun
    | .text s _ => s
    | _ => "")

/-- The text of a word without quotes and expansions. -/
def Word.bare? : Word → Option String
  | [.text s false] => some s
  | _ => none

/-- The character may start a name. -/
def isNameStart (c : Char) : Bool := c.isAlpha || c == '_'

/-- The character may stand in a name. -/
def isNameChar (c : Char) : Bool := c.isAlphanum || c == '_'

/-- The text is a name. -/
def isName (s : String) : Bool :=
  s.toList.all isNameChar && (s.toList.head?.map isNameStart).getD false

/-- The name and the value of a word that is an assignment. -/
def Word.assignment? : Word → Option (String × Word)
  | .text s false :: rest =>
    let name := s.toList.takeWhile isNameChar
    match s.toList.drop name.length with
    | '=' :: value =>
      if isName (String.ofList name) then
        some (String.ofList name,
          if value.isEmpty then rest else .text (String.ofList value) false :: rest)
      else none
    | _ => none
  | _ => none

end RevisionGraph.Shell
