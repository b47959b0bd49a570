import RevisionGraph.Json.Field

/-!
# Words of a command line

`splitWords` cuts a command line into words.  Space, tab, carriage return and line feed separate
words; quotes hide them, and a word may be made of several pieces.

* **Single quotes** hide everything up to the next one.
* **Double quotes** hide everything up to the next one, save that a backslash takes a double quote
  or a backslash after it for itself.
* **A backslash** outside quotes takes the next character for itself.
-/

set_option autoImplicit false

namespace RevisionGraph.Engine

/-- The character stands between words. -/
def isSeparator (c : Char) : Bool := c == ' ' || c == '\t' || c == '\r' || c == '\n'

/-- What the characters read so far amount to. -/
inductive Position where
  /-- between words -/
  | between
  /-- inside a word, outside quotes -/
  | bare
  /-- inside quotes of the given character -/
  | within (quote : Char)
  deriving DecidableEq, Repr

/-- Reads characters; `word` is the current word backwards. -/
def scan : Position → List Char → List Char → Result (List String)
  | .between, _, [] => .ok []
  | .bare, word, [] => .ok [String.ofList word.reverse]
  | .within _, _, [] => .error (.conversion .noClosingQuote)
  | .within quote, word, c :: rest =>
    if c = quote then scan .bare word rest
    else if c = '\\' ∧ quote = Text.doubleQuote then
      match rest with
      | [] => .error (.conversion .noEscapedCharacter)
      | d :: rest =>
        if d = '\\' ∨ d = Text.doubleQuote then scan (.within quote) (d :: word) rest
        else scan (.within quote) (d :: '\\' :: word) rest
    else scan (.within quote) (c :: word) rest
  | context, word, c :: rest =>
    if isSeparator c then
      if context = .between then scan .between [] rest
      else do
        let more ← scan .between [] rest
        return String.ofList word.reverse :: more
    else if c = Text.singleQuote ∨ c = Text.doubleQuote then scan (.within c) word rest
    else if c = '\\' then
      match rest with
      | [] => .error (.conversion .noEscapedCharacter)
      | d :: rest => scan .bare (d :: word) rest
    else scan .bare (c :: word) rest

/-- The words of a command line. -/
def splitWords (line : String) : Result (List String) := scan .between [] line.toList

end RevisionGraph.Engine
