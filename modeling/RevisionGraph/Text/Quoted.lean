import RevisionGraph.Text.Printable

/-!
# Quoted text

`quoted` writes a text between quotes so that messages can show it: in single quotes, or in double
quotes where it holds a single quote and no double one.  The quote in use and the backslash are
escaped, line feed, carriage return and tab have their short escapes, and every other character
that does not print as itself is written by its code point.  `asciiOnly` writes every character
outside ASCII that way.
-/

set_option autoImplicit false

namespace RevisionGraph.Text

/-- The quote that is used unless it is in the text. -/
def singleQuote : Char := '\x27'

/-- The quote that is used instead. -/
def doubleQuote : Char := '\x22'

/-- The lower-case hexadecimal digit of a value below sixteen. -/
def hexDigit (n : Nat) : Char := Char.ofNat (if n < 10 then 0x30 + n else 0x57 + n)

/-- The `width` lowest hexadecimal digits of a number. -/
def hexDigits : Nat → Nat → List Char
  | 0, _ => []
  | width + 1, n => hexDigits width (n / 16) ++ [hexDigit (n % 16)]

/-- The quote that a text is put in. -/
def quoteFor (cs : List Char) : Char :=
  if cs.contains singleQuote && !cs.contains doubleQuote then doubleQuote else singleQuote

/-- The shortest escape that holds the code point of a character. -/
def escapeCode (c : Char) : List Char :=
  if c.toNat < 0x100 then '\\' :: 'x' :: hexDigits 2 c.toNat
  else if c.toNat < 0x10000 then '\\' :: 'u' :: hexDigits 4 c.toNat
  else '\\' :: 'U' :: hexDigits 8 c.toNat

/-- One character inside quotes. -/
def escapeIn (quote c : Char) : List Char :=
  if c == quote || c == '\\' then ['\\', c]
  else if c == '\n' then ['\\', 'n']
  else if c == '\r' then ['\\', 'r']
  else if c == '\t' then ['\\', 't']
  else if isPrintable c then [c]
  else escapeCode c

/-- The text with every character that is not ASCII written by its code point. -/
def asciiOnly (s : String) : String :=
  String.ofList (s.toList.flatMap fun c ↦ if c.toNat < 0x80 then [c] else escapeCode c)

/-- The text in quotes. -/
def quoted (s : String) : String :=
  let quote := quoteFor s.toList
  String.ofList (quote :: s.toList.flatMap (escapeIn quote) ++ [quote])

end RevisionGraph.Text
