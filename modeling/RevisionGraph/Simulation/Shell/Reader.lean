import RevisionGraph.Number.Operations
import RevisionGraph.Simulation.Shell.Source

/-!
# Reading shell scripts

`Script.readLine` reads the next line of a script, with the lines that its commands go on in.
Words, commands and documents are read character by character by functions that call each other;
each takes a bound on the depth of the calls, which is computed from the length of the text.

* **Words.**  `readPlain` reads what stands outside double quotes, `readQuoted` what stands inside
  them or in a document, `readDollar` an expansion.
* **Tokens.**  `readToken` knows where reserved words and aliases count.
* **Commands.**  `readList`, `readPipeline`, `readCommand` and those beside them.

A line that asks for documents is read twice: where its commands stand in the text, the documents
are still to come.
-/

set_option autoImplicit false

namespace RevisionGraph.Shell

open ReaderM

/-! ## Characters -/

/-- The character ends a word. -/
def endsWord (c : Char) : Bool := " \t\n;&|<>()".toList.contains c

/-- Names of parameters that are one character long. -/
def isSpecial (c : Char) : Bool := c.isDigit || "$?#@*!-".toList.contains c

/-- What is said of a quote that does not end. -/
def unterminated : String := "Unterminated quoted string"

/-- What is said of a brace that does not end. -/
def openBraces : String := "Missing '\x7d'"

/-- What is said of brackets that do not end. -/
def openBrackets : String := "Missing '))'"

/-- Where quoted text ends. -/
inductive Bound where
  /-- at the next quote; it may stand inside braces -/
  | quote (inBraces : Bool)
  /-- at a closing brace, perhaps of a document -/
  | brace (document : Option Delimiter)
  | document (d : Delimiter)

namespace Bound

/-- What ends the part of a word that is being read. -/
def delimiter? : Bound → Option Delimiter
  | .quote _ => none
  | .brace d => d
  | .document d => some d

/-- A backslash before the character only says that the character stands for itself. -/
def unescapes (b : Bound) (c : Char) : Bool :=
  c = '\\' || c = '\x60' || c = '$' ||
    match b with
    | .quote inBraces => c = '"' || (inBraces && c = '\x7d')
    | .brace _ => c = '"' || c = '\x7d'
    | .document _ => false

/-- What is wrong with a text that ends before its bound. -/
def fault : Bound → String
  | .brace (some _) => openBraces
  | _ => unterminated

end Bound

/-- Which tokens a reader is ready for. -/
structure Ready where
  newlines : Bool := false
  keywords : Bool := false
  aliases : Bool := false
  /-- the word ends a document -/
  mark : Bool := false

/-- Ready for a command on this line or a later one. -/
def Ready.command : Ready := { newlines := true, keywords := true, aliases := true }

namespace Reader

/-- The text up to a single quote, with the quote itself. -/
def takeSingle : ReaderM String := do
  let s ← get
  let inside := s.rest.takeWhile (· != '\x27')
  set { s with
    rest := s.rest.drop (inside.length + 1), line := s.line + inside.count '\n'
    touched := s.touched || inside.length == s.rest.length }
  if inside.length = s.rest.length then throw unterminated
  return String.ofList inside

/-- The text of a substitution in backquotes, up to the closing one. -/
def takeBackquoted (quoted : Bool) : Nat → List Char → ReaderM (List Char)
  | 0, _ => throw unterminated
  | n + 1, text => do
    match ← nextJoined with
    | none => throw "EOF in backquote substitution"
    | some '\x60' => return text.reverse
    | some '\\' =>
      match ← next with
      | none => throw "EOF in backquote substitution"
      | some c =>
        if c = '\\' || c = '\x60' || c = '$' || (quoted && c = '"') then
          takeBackquoted quoted n (c :: text)
        else takeBackquoted quoted n (c :: '\\' :: text)
    | some c =>
      if c = '\n' then newline
      takeBackquoted quoted n (c :: text)

/-- The modifier behind the name of a parameter, which starts with a character, and whether an empty
value counts as none.  An end of the braces needs no modifier. -/
def modifierOf (c : Option Char) : ReaderM (Modifier × Bool) := do
  let simple : Option Char → Modifier
    | some '-' => .use
    | some '+' => .replace
    | some '?' => .demand
    | some '=' => .assign
    | some '\x7d' => .plain
    | _ => .bad
  let twice (c : Char) : ReaderM Bool := do
    let d ← nextJoined
    if d = some c then return true
    unread d
    return false
  match c with
  | some ':' => return (simple (← nextJoined), true)
  | some '#' => return (.cutStart (← twice '#'), false)
  | some '%' => return (.cutEnd (← twice '%'), false)
  | c => return (simple c, false)

/-- The name of a parameter in braces and its modifier.  A bad substitution is told when it is
carried out. -/
def takeParameter (bound : Nat) : ReaderM (String × Modifier × Bool) := do
  let nameFrom (c : Char) : ReaderM String := do
    let more ← takeJoined (if c.isDigit then Char.isDigit else isNameChar) bound
    return String.ofList (c :: more)
  let startsName (c : Option Char) : Bool := c.any isNameChar
  match ← nextJoined with
  | none => return ("", .bad, false)
  | some '\x7d' =>
    unread (some '\x7d')
    return ("", .bad, false)
  | some '#' =>
    let c ← nextJoined
    match c with
    | some d =>
      if startsName c then
        let name ← nameFrom d
        let after ← nextJoined
        unread after
        return (name, if after = some '\x7d' then .length else .bad, false)
      let after ← nextJoined
      if d != '\x7d' && after = some '\x7d' then
        unread after
        return (String.singleton d, if isSpecial d then .length else .bad, false)
      unread after
      let (modifier, alsoEmpty) ← modifierOf c
      return ("#", modifier, alsoEmpty)
    | none => return ("#", .bad, false)
  | some c =>
    if isNameChar c then
      let name ← nameFrom c
      let (modifier, alsoEmpty) ← modifierOf (← nextJoined)
      return (name, modifier, alsoEmpty)
    else if isSpecial c then
      let (modifier, alsoEmpty) ← modifierOf (← nextJoined)
      return (String.singleton c, modifier, alsoEmpty)
    else return ("", .bad, false)

/-- Skips blanks and remarks. -/
def skipBlanks : Nat → ReaderM Unit
  | 0 => return
  | n + 1 => do
    let c ← nextJoined
    if c = some ' ' || c = some '\t' then skipBlanks n
    else
      unread c
      if c = some '#' then modify fun s ↦ { s with rest := s.rest.dropWhile (· != '\n') }

/-- The operator of a redirection that starts with a character. -/
def takeRedirection (c : Char) (fd : Option Nat) : ReaderM Token := do
  let second ← nextJoined
  let give (s : String) : ReaderM Token := return .redirect fd s
  match c, second with
  | '>', some '>' => give ">>"
  | '>', some '|' => give ">|"
  | '>', some '&' => give ">&"
  | '<', some '&' => give "<&"
  | '<', some '>' => give "<>"
  | '<', some '<' =>
    let third ← nextJoined
    if third = some '-' then give "<<-"
    else
      unread third
      give "<<"
  | c, second =>
    unread second
    give (String.singleton c)

/-- An operator or a line end at the front. -/
def takeOperator? : ReaderM (Option Token) := do
  let double (c : Char) : ReaderM (Option Token) := do
    let second ← nextJoined
    if second = some c then return some (.operator (String.ofList [c, c]))
    unread second
    return some (.operator (String.singleton c))
  match ← nextJoined with
  | none => return some .finish
  | some '\n' =>
    newline
    return some .newline
  | some '&' => double '&'
  | some '|' => double '|'
  | some ';' => double ';'
  | some '(' => return some (.operator "(")
  | some ')' => return some (.operator ")")
  | c =>
    unread c
    return none

/-- The text of an alias that a word is, unless it is being read already. -/
def aliasText? (word : String) : ReaderM (Option String) := do
  let s ← get
  if s.aliases.isEmpty then return none
  let left := s.rest.length
  let running := s.running.filter (·.2 ≤ left)
  set { s with running }
  if running.any (·.1 == word) then return none
  return (s.aliases.find? (·.1 == word)).map Prod.snd

/-- Puts the text of an alias where the word was. -/
def pushAlias (word text : String) : ReaderM Unit :=
  modify fun s ↦
    let left := s.rest.length
    let blank := text.endsWith " " || text.endsWith "\t"
    { s with
      rest := text.toList ++ s.rest
      running := (word, left) :: s.running
      eager := if blank then left :: s.eager else s.eager }

/-- The next word stands behind an alias that ends with a blank. -/
def isEager : ReaderM Bool := do
  let s ← get
  if s.eager.isEmpty then return false
  let left := s.rest.length
  set { s with eager := s.eager.filter (· < left) }
  return s.eager.any (left ≤ ·)

/-- A redirection, but for the document that it may ask for. -/
def redirectOf (fd : Option Nat) (operator : String) (target : Word) : Redirect :=
  let (usual, kind) : Nat × RedirectKind := match operator with
    | "<" => (0, .read)
    | ">" => (1, .write)
    | ">|" => (1, .clobber)
    | ">>" => (1, .append)
    | "<>" => (0, .both)
    | ">&" => (1, .copy)
    | "<&" => (0, .copy)
    | _ => (0, .document)
  .mk (fd.getD usual) kind target

/-- A list of commands ends at the token. -/
def endsList : Token → Bool
  | .operator s => s = ")" || s = ";;"
  | .keyword s => ["then", "elif", "else", "fi", "do", "done", "esac", "\x7d"].contains s
  | .finish => true
  | _ => false

/-- Puts a token back. -/
def pushBack (t : Token) : ReaderM Unit := modify fun s ↦ { s with pushedBack := some t }

/-- Commands of the shell that no function may be named like. -/
def specialCommands : List String :=
  [":", ".", "break", "continue", "eval", "exec", "exit", "export", "local", "readonly", "return",
    "set", "shift", "times", "trap", "unset"]

/-- The parts of a simple command. -/
structure SimpleParts where
  assignments : List (String × Word) := []
  words : List Word := []
  redirects : List Redirect := []

mutual

-- Words

/-- Reads what stands outside double quotes, up to the end of a word or of braces.  With the word
comes whether a quote or a backslash stood in it. -/
def readPlain : Nat → (braces mark : Bool) → Word → Bool → ReaderM (Word × Bool)
  | 0, _, _, _, _ => throw unterminated
  | n + 1, braces, mark, w, quoted => do
    match ← nextJoined with
    | none => if braces then throw openBraces else return (w, quoted)
    | some '\\' =>
      match ← next with
      | none => readPlain n braces mark (pushChar w '\\' true) quoted
      | some c => readPlain n braces mark (pushChar w c true) true
    | some '\x27' => do
      let inside ← takeSingle
      readPlain n braces mark (pushText w inside true) true
    | some '"' => do
      let inside ← readQuoted n (.quote braces) []
      match inside with
      | [.parameter "@" .plain alsoEmpty word true] =>
        readPlain n braces mark (.parameter "@" .plain alsoEmpty word true :: w) true
      | inside => readPlain n braces mark (inside ++ pushText w "" true) true
    | some '\x60' => do
      if mark then readPlain n braces mark (pushChar w '\x60' false) quoted
      else
        let part ← readBackquoted n false
        readPlain n braces mark (part :: w) quoted
    | some '$' => do
      if mark then readPlain n braces mark (pushChar w '$' false) quoted
      else
        let w ← readDollar n false none w
        readPlain n braces mark w quoted
    | some c => do
      if braces then
        if c = '\x7d' then return (w, quoted)
        if c = '\n' then newline
        readPlain n braces mark (pushChar w c false) quoted
      else if endsWord c then
        unread (some c)
        return (w, quoted)
      else readPlain n braces mark (pushChar w c false) quoted

/-- Reads quoted text up to its bound.  Inside braces a quote only keeps the brace from ending them.
-/
def readQuoted : Nat → Bound → Word → ReaderM Word
  | 0, _, _ => throw unterminated
  | n + 1, bound, w => readQuotedIn n bound false w

/-- Reads a word in quotes. -/
def readQuotedIn : Nat → Bound → (hidden : Bool) → Word → ReaderM Word
  | 0, _, _, _ => throw unterminated
  | n + 1, bound, hidden, w => do
    match ← nextJoined with
    | none =>
      match bound with
      | .document _ => return w
      | bound => throw bound.fault
    | some '\\' =>
      match ← next with
      | none => readQuotedIn n bound hidden (pushChar w '\\' true)
      | some c =>
        if bound.unescapes c then readQuotedIn n bound hidden (pushChar w c true)
        else
          if c = '\n' then newline
          readQuotedIn n bound hidden (pushChar (pushChar w '\\' true) c true)
    | some '"' =>
      match bound with
      | .quote _ => return w
      | .brace _ => readQuotedIn n bound (!hidden) w
      | .document _ => readQuotedIn n bound hidden (pushChar w '"' true)
    | some '\x7d' =>
      match bound with
      | .brace _ => if hidden then readQuotedIn n bound hidden (pushChar w '\x7d' true) else return w
      | _ => readQuotedIn n bound hidden (pushChar w '\x7d' true)
    | some '\x60' =>
      let part ← readBackquoted n true
      readQuotedIn n bound hidden (part :: w)
    | some '$' =>
      let w ← readDollar n true bound.delimiter? w
      readQuotedIn n bound hidden w
    | some '\n' =>
      newline
      let w := pushChar w '\n' true
      match bound.delimiter? with
      | some d =>
        if ← atEnd d then
          match bound with
          | .brace _ => throw openBraces
          | _ => return w
        else readQuotedIn n bound hidden w
      | none => readQuotedIn n bound hidden w
    | some c => readQuotedIn n bound hidden (pushChar w c true)

/-- Reads an expansion behind its dollar sign; a dollar sign that starts none stands for itself. -/
def readDollar : Nat → (quoted : Bool) → Option Delimiter → Word → ReaderM Word
  | 0, _, _, _ => throw unterminated
  | n + 1, quoted, document, w => do
    match ← nextJoined with
    | some '(' =>
      let c ← nextJoined
      if c = some '(' then
        let expression ← readArithmetic n document 0 []
        return .arithmetic expression.reverse quoted :: w
      else
        unread c
        let body ← readSubstituted n
        return .command body quoted :: w
    | some '\x7b' =>
      let (name, modifier, alsoEmpty) ← takeParameter n
      let plain : Part := .parameter name modifier alsoEmpty [] quoted
      match modifier with
      | .plain =>
        if !alsoEmpty then return plain :: w
        let _ ← readWordInBraces n quoted document
        return plain :: w
      | .cutStart _ | .cutEnd _ =>
        let (word, _) ← readPlain n true false [] false
        return .parameter name modifier alsoEmpty word.reverse quoted :: w
      | _ =>
        let word ← readWordInBraces n quoted document
        return .parameter name modifier alsoEmpty word.reverse quoted :: w
    | some c =>
      if isNameStart c then
        let more ← takeJoined isNameChar n
        return .parameter (String.ofList (c :: more)) .plain false [] quoted :: w
      else if isSpecial c then return .parameter (String.singleton c) .plain false [] quoted :: w
      else
        unread (some c)
        return pushChar w '$' quoted
    | none => return pushChar w '$' quoted

/-- Reads the word behind a modifier, up to the closing brace. -/
def readWordInBraces : Nat → (quoted : Bool) → Option Delimiter → ReaderM Word
  | 0, _, _ => throw unterminated
  | n + 1, quoted, document => do
    if quoted then readQuoted n (.brace document) []
    else
      let (word, _) ← readPlain n true false [] false
      return word

/-- Reads an arithmetic expression up to its two closing brackets; inside it so many brackets are
open. -/
def readArithmetic : Nat → Option Delimiter → Nat → Word → ReaderM Word
  | 0, _, _, _ => throw openBrackets
  | n + 1, document, depth, w => do
    match ← nextJoined with
    | none => throw openBrackets
    | some '\\' =>
      match ← next with
      | none => throw openBrackets
      | some c =>
        if (Bound.quote false).unescapes c && !(c = '"' && document.isSome) then
          readArithmetic n document depth (pushChar w c true)
        else readArithmetic n document depth (pushChar (pushChar w '\\' true) c true)
    | some '$' =>
      let w ← readDollar n true document w
      readArithmetic n document depth w
    | some '\x60' =>
      let part ← readBackquoted n true
      readArithmetic n document depth (part :: w)
    | some '(' => readArithmetic n document (depth + 1) (pushChar w '(' true)
    | some ')' =>
      if 0 < depth then readArithmetic n document (depth - 1) (pushChar w ')' true)
      else
        let c ← nextJoined
        if c = some ')' then return w
        unread c
        readArithmetic n document 0 (pushChar w ')' true)
    | some c =>
      if c = '\n' then
        newline
        if let some d := document then
          if ← atEnd d then throw openBrackets
      readArithmetic n document depth (pushChar w c true)

/-- Reads a substituted command up to its closing bracket. -/
def readSubstituted : Nat → ReaderM Script
  | 0 => throw unterminated
  | n + 1 => do
    let due := (← get).due
    modify fun s ↦ { s with due := [] }
    let body ← readList n false true
    match ← readToken n {} with
    | .operator ")" => pure ()
    | t => lacking t (inQuotes ")")
    -- documents that the command asks for on its last line are empty
    modify fun s ↦ { s with
      found := s.due.map (fun d ↦ (d.1, [])) ++ s.found, due, pushedBack := none }
    return body

/-- Reads a substituted command behind its first backquote.  What it holds is a text of its own. -/
def readBackquoted : Nat → (quoted : Bool) → ReaderM Part
  | 0, _ => throw unterminated
  | n + 1, quoted => do
    let text ← takeBackquoted quoted n []
    let outer ← get
    set { outer with rest := text, line := 1, due := [], running := [], eager := [] }
    let body ← readList n false true
    modify fun s ↦ { outer with asked := s.asked, found := s.found }
    return .command body quoted

-- Tokens

/-- Reads the documents that the line has asked for. -/
def readDocuments : Nat → List (Nat × Delimiter) → ReaderM Unit
  | 0, _ => return
  | _ + 1, [] => modify fun s ↦ { s with due := [] }
  | n + 1, (number, d) :: more => do
    let word : Word ←
      if d.literal then do
        let s ← get
        let (text, rest) := d.lines (s.rest.length + 1) s.rest
        let used := s.rest.take (s.rest.length - rest.length)
        set { s with
          rest := rest.drop 1
          line := s.line + used.count '\n' + (if rest.isEmpty then 0 else 1)
          touched := s.touched || rest.isEmpty }
        pure [.text (String.ofList text) true]
      else if ← atEnd d then pure []
      else do pure (← readQuoted n (.document d) []).reverse
    modify fun s ↦ { s with found := (number, word) :: s.found }
    readDocuments n more

/-- Reads a token that is no line end, or with line ends. -/
def readRaw : Nat → (mark : Bool) → ReaderM Token
  | 0, _ => throw unterminated
  | n + 1, mark => do
    if let some t := (← get).pushedBack then
      modify fun s ↦ { s with pushedBack := none }
      return t
    skipBlanks n
    if let some t ← takeOperator? then return t
    let (w, quoted) ← readPlain n false mark [] false
    let c ← next
    let fd? : Option (Option Nat) := match w, quoted with
      | [], false => some none
      | [.text s false], false => match s.toList with
        | [d] => if d.isDigit then some (some (d.toNat - 48)) else none
        | _ => none
      | _, _ => none
    match c, fd? with
    | some '<', some fd => takeRedirection '<' fd
    | some '>', some fd => takeRedirection '>' fd
    | c, _ =>
      unread c
      return .word w.reverse quoted

/-- Reads line ends, with the documents behind each, and what follows them. -/
def readPastNewlines : Nat → Token → ReaderM Token
  | 0, t => return t
  | n + 1, t =>
    match t with
    | .newline => do
      readDocuments n (← get).due
      readPastNewlines n (← readRaw n false)
    | t => return t

/-- Reads a token. -/
def readToken : Nat → Ready → ReaderM Token
  | 0, _ => throw unterminated
  | n + 1, ready => do
    let t ← readRaw n ready.mark
    let t ← if ready.newlines then readPastNewlines n t else pure t
    match t with
    | .word w false =>
      let eager ← isEager
      match Word.bare? w with
      | none => return t
      | some s =>
        if ready.keywords && reservedWords.contains s then return .keyword s
        if !ready.aliases && !eager then return t
        match ← aliasText? s with
        | some text =>
          pushAlias s text
          readToken n { ready with aliases := true }
        | none => return t
    | t => return t

-- Commands

/-- Reads a list of commands: a line of a script, or commands up to what ends them.  Such a list may
be empty only if `mayBeEmpty` says so. -/
def readList : Nat → (line mayBeEmpty : Bool) → ReaderM Script
  | 0, _, _ => throw unterminated
  | n + 1, line, mayBeEmpty => readListFrom n line mayBeEmpty none

/-- Goes on with a list of commands. -/
def readListFrom : Nat → (line closable : Bool) → Option Script → ReaderM Script
  | 0, _, _, _ => throw unterminated
  | n + 1, line, closable, before => do
    let before' := before.getD .nothing
    match ← readToken n { Ready.command with newlines := !line } with
    | .newline =>
      readDocuments n (← get).due
      return before'
    | .finish =>
      readDocuments n (← get).due
      pushBack .finish
      return before'
    | t =>
      pushBack t
      if closable && !line && endsList t then return before'
      let command ← readAndOr n
      let t ← readToken n {}
      let command := if t matches .operator "&" then .background command else command
      let all := match before with
        | none => command
        | some first => .sequence first command
      match t with
      | .finish =>
        readDocuments n (← get).due
        pushBack .finish
        return all
      | .newline =>
        pushBack .newline
        readListFrom n line true (some all)
      | .operator ";" | .operator "&" => readListFrom n line true (some all)
      | t =>
        if line then unexpected t
        pushBack t
        return all

/-- Reads pipelines that depend on each other. -/
def readAndOr : Nat → ReaderM Script
  | 0 => throw unterminated
  | n + 1 => do
    let first ← readPipeline n
    readAndOrFrom n first

/-- Goes on with such pipelines. -/
def readAndOrFrom : Nat → Script → ReaderM Script
  | 0, _ => throw unterminated
  | n + 1, first => do
    match ← readToken n {} with
    | .operator "&&" =>
      let t ← readToken n Ready.command
      pushBack t
      let second ← readPipeline n
      readAndOrFrom n (.andThen first second)
    | .operator "||" =>
      let t ← readToken n Ready.command
      pushBack t
      let second ← readPipeline n
      readAndOrFrom n (.orElse first second)
    | t =>
      pushBack t
      return first

/-- Reads a pipeline. -/
def readPipeline : Nat → ReaderM Script
  | 0 => throw unterminated
  | n + 1 => do
    let negated ← match ← readToken n {} with
      | .keyword "!" => do
        let t ← readToken n { keywords := true, aliases := true }
        pushBack t
        pure true
      | t => do
        pushBack t
        pure false
    let commands ← readPiped n
    let body := match commands with
      | [command] => command
      | commands => .pipeline commands
    return if negated then .negation body else body

/-- Reads the commands of a pipeline. -/
def readPiped : Nat → ReaderM (List Script)
  | 0 => throw unterminated
  | n + 1 => do
    let first ← readCommand n
    match ← readToken n {} with
    | .operator "|" =>
      let t ← readToken n Ready.command
      pushBack t
      return first :: (← readPiped n)
    | t =>
      pushBack t
      return [first]

/-- Reads a token that must be there. -/
def expect : Nat → Token → ReaderM Unit
  | 0, _ => throw unterminated
  | n + 1, due => do
    let t ← readToken n {}
    match t, due with
    | .keyword a, .keyword b => if a ≠ b then lacking t due.shown
    | .operator a, .operator b => if a ≠ b then lacking t due.shown
    | t, due => lacking t due.shown

/-- Reads a command. -/
def readCommand : Nat → ReaderM Script
  | 0 => throw unterminated
  | n + 1 => do
    let line := (← get).line
    match ← readToken n {} with
    | .keyword "if" =>
      let body ← readConditional n
      readRedirected n line body
    | .keyword "while" =>
      let body ← readLoop n true
      readRedirected n line body
    | .keyword "until" =>
      let body ← readLoop n false
      readRedirected n line body
    | .keyword "for" =>
      let body ← readEach n line
      readRedirected n line body
    | .keyword "case" =>
      let body ← readChoice n line
      readRedirected n line body
    | .keyword "\x7b" =>
      let body ← readList n false false
      expect n (.keyword "\x7d")
      readRedirected n line body
    | .operator "(" =>
      let body ← readList n false false
      expect n (.operator ")")
      let redirects ← readRedirects n
      return .subshell line body redirects
    | .word w quoted =>
      pushBack (.word w quoted)
      readSimple n line
    | .redirect fd operator =>
      pushBack (.redirect fd operator)
      readSimple n line
    | t => unexpected t

/-- Reads the redirections behind a command that started in a line. -/
def readRedirected : Nat → Nat → Script → ReaderM Script
  | 0, _, _ => throw unterminated
  | n + 1, line, body => do
    let redirects ← readRedirects n
    return if redirects.isEmpty then body else .redirected line body redirects

/-- Reads what a command redirects. -/
def readRedirects : Nat → ReaderM (List Redirect)
  | 0 => throw unterminated
  | n + 1 => do
    match ← readToken n { keywords := true, aliases := true } with
    | .redirect fd operator =>
      let first ← readTarget n fd operator
      return first :: (← readRedirects n)
    | t =>
      pushBack t
      return []

/-- Reads the word behind a redirection. -/
def readTarget : Nat → Option Nat → String → ReaderM Redirect
  | 0, _, _ => throw unterminated
  | n + 1, fd, operator => do
    let isDocument := operator = "<<" || operator = "<<-"
    match ← readToken n { mark := isDocument } with
    | .word w quoted =>
      if !isDocument then return redirectOf fd operator w
      let s ← get
      let d : Delimiter := {
        text := (Word.plain w).toList, literal := quoted, stripped := operator == "<<-" }
      set { s with asked := s.asked + 1, due := s.due ++ [(s.asked, d)] }
      let word := (s.known.find? (·.1 == s.asked)).map Prod.snd
      return redirectOf fd operator (word.getD [])
    | t => unexpected t

/-- Reads a simple command. -/
def readSimple : Nat → Nat → ReaderM Script
  | 0, _ => throw unterminated
  | n + 1, line => readSimpleFrom n line {}

/-- Goes on with a simple command. -/
def readSimpleFrom : Nat → Nat → SimpleParts → ReaderM Script
  | 0, _, _ => throw unterminated
  | n + 1, line, parts => do
    match ← readToken n { aliases := parts.words.isEmpty } with
    | .word w _ =>
      match parts.words, Word.assignment? w with
      | [], some a =>
        readSimpleFrom n line { parts with assignments := parts.assignments ++ [a] }
      | words, _ => readSimpleFrom n line { parts with words := words ++ [w] }
    | .redirect fd operator =>
      let r ← readTarget n fd operator
      readSimpleFrom n line { parts with redirects := parts.redirects ++ [r] }
    | t =>
      match t, parts with
      | .operator "(", ⟨[], [name], []⟩ => readFunction n name
      | t, parts =>
        pushBack t
        return .simple line parts.assignments parts.words parts.redirects

/-- Reads a function behind its name and the opening bracket. -/
def readFunction : Nat → Word → ReaderM Script
  | 0, _ => throw unterminated
  | n + 1, word => do
    expect n (.operator ")")
    match Word.bare? word with
    | some name =>
      if !isName name || specialCommands.contains name then throw "Bad function name"
      let t ← readToken n Ready.command
      pushBack t
      return .function name (← readCommand n)
    | none => throw "Bad function name"

/-- Reads a conditional behind its first word. -/
def readConditional : Nat → ReaderM Script
  | 0 => throw unterminated
  | n + 1 => do
    let condition ← readList n false false
    expect n (.keyword "then")
    let yes ← readList n false false
    match ← readToken n {} with
    | .keyword "elif" =>
      let no ← readConditional n
      return .conditional condition yes no
    | .keyword "else" =>
      let no ← readList n false false
      expect n (.keyword "fi")
      return .conditional condition yes no
    | t =>
      pushBack t
      expect n (.keyword "fi")
      return .conditional condition yes .nothing

/-- Reads a loop behind its first word. -/
def readLoop : Nat → (whileTrue : Bool) → ReaderM Script
  | 0, _ => throw unterminated
  | n + 1, whileTrue => do
    let condition ← readList n false false
    expect n (.keyword "do")
    let body ← readList n false false
    expect n (.keyword "done")
    return .loop whileTrue condition body

/-- Reads a loop over words behind its first word. -/
def readEach : Nat → Nat → ReaderM Script
  | 0, _ => throw unterminated
  | n + 1, line => do
    let name ← match ← readToken n {} with
      | .word w false => match Word.bare? w with
        | some name => if isName name then pure name else throw "Bad for loop variable"
        | none => throw "Bad for loop variable"
      | _ => throw "Bad for loop variable"
    let words ← match ← readToken n Ready.command with
      | .keyword "in" => do
        let words ← readWords n
        pure (some words)
      | .operator ";" => pure none
      | t => do
        pushBack t
        pure none
    match ← readToken n Ready.command with
    | .keyword "do" => pure ()
    | t => lacking t (inQuotes "do")
    let body ← readList n false false
    expect n (.keyword "done")
    return .each line name words body

/-- Reads words up to the end of their line. -/
def readWords : Nat → ReaderM (List Word)
  | 0 => throw unterminated
  | n + 1 => do
    match ← readToken n {} with
    | .word w _ => return w :: (← readWords n)
    | .newline =>
      readDocuments n (← get).due
      return []
    | .operator ";" => return []
    | t => unexpected t

/-- Reads a choice behind its first word. -/
def readChoice : Nat → Nat → ReaderM Script
  | 0, _ => throw unterminated
  | n + 1, line => do
    match ← readToken n {} with
    | .word subject _ =>
      match ← readToken n Ready.command with
      | .keyword "in" => return .choice line subject (← readBranches n)
      | t => lacking t (inQuotes "in")
    | t => lacking t "word"

/-- Reads the branches of a choice and the word that ends it. -/
def readBranches : Nat → ReaderM (List (List Word × Script))
  | 0 => throw unterminated
  | n + 1 => do
    match ← readToken n { newlines := true, keywords := true } with
    | .keyword "esac" => return []
    | t =>
      let t ← if t matches .operator "(" then readToken n {} else pure t
      let patterns ← readPatterns n t
      let body ← readList n false true
      match ← readToken n { newlines := true, keywords := true } with
      | .keyword "esac" => return [(patterns, body)]
      | .operator ";;" => return (patterns, body) :: (← readBranches n)
      | t => lacking t (inQuotes ";;")

/-- Reads patterns with bars between them and the bracket behind them. -/
def readPatterns : Nat → Token → ReaderM (List Word)
  | 0, _ => throw unterminated
  | n + 1, t => do
    let w : Word := match t with
      | .word w _ => w
      | .keyword s => [.text s false]
      | _ => []
    match ← readToken n {} with
    | .operator "|" => return w :: (← readPatterns n (← readToken n {}))
    | .operator ")" => return [w]
    | t => lacking t (inQuotes ")")

end

/-- A bound on the depth of the calls. -/
def depth (s : Source) : Nat :=
  let aliases := (s.aliases.map fun a ↦ a.2.length).sum
  64 * (s.rest.length + 1) * (aliases + 1) + 1024

end Reader

/-! ## Lines -/

/-- What stands next in a source. -/
inductive NextLine where
  | script (s : Script)
  | finished
  | refused (why : String)

/-- Reads a line; nothing stands behind the last one. -/
def Source.readLineOnce (s : Source) : NextLine × Source :=
  let bound := Reader.depth s
  let read : ReaderM Script := Reader.readList bound true false
  match read.run s with
  | (.ok script, after) =>
    if after.pushedBack matches some .finish && script matches .nothing then (.finished, after)
    else (.script script, after)
  | (.error why, after) => (.refused why, after)

/-- Reads the next line of a script. -/
def Source.readLine (s : Source) : NextLine × Source :=
  let s := { s with
    pushedBack := none, asked := 0, due := [], known := [], found := [], touched := false }
  match s.readLineOnce with
  | (.script script, after) =>
    if after.found.isEmpty then (.script script, after)
    else { s with known := after.found }.readLineOnce
  | answer => answer

/-- Nothing stands behind the line that was read. -/
def Source.isFinished (s : Source) : Bool := s.pushedBack matches some .finish

end RevisionGraph.Shell
