import RevisionGraph.Simulation.Text.Regex.Reader
import RevisionGraph.Simulation.Text.Octets

/-!
# Scripts for editing lines

An `Edit` is a command of a script that edits lines, with the lines that it is for.
`EditScript.read` reads a script.  Blocks and jumps become numbers of commands, so that a script is
a plain list.
-/

set_option autoImplicit false

namespace RevisionGraph.Tools

open RevisionGraph.Text (Regex)

/-! ## Commands -/

/-- A pattern; without one the last that was used counts. -/
structure EditPattern where
  regex : Option Regex
  fold : Bool := false

/-- Which lines a command is for. -/
inductive EditAddress where
  | line (n : Nat)
  | last
  | pattern (p : EditPattern)
  /-- a first line and every so many further ones -/
  | every (first step : Nat)

/-- Where a range of lines ends. -/
inductive EditEnd where
  | address (a : EditAddress)
  /-- so many lines later -/
  | further (n : Nat)
  /-- at the next line whose number is a multiple -/
  | multiple (n : Nat)

/-- A part of what is put in place of something. -/
inductive Replacement where
  | text (cs : List Char)
  | group (number : Nat)
  /-- a letter that changes the case of what follows -/
  | casing (letter : Char)

/-- What is replaced by what. -/
structure Substitution where
  pattern : EditPattern
  replacement : List Replacement
  all : Bool := false
  number : Nat := 1
  prints : Bool := false
  file : Option String := none

/-- What a command does. -/
inductive EditAction where
  /-- goes on at a command behind the block if the line is not meant -/
  | opening (behind : Nat)
  | closing
  | label (name : String)
  /-- `b`, `t` or `T` -/
  | jump (letter : Char) (label : String)
  /-- `a`, `i` or `c` with a text -/
  | text (letter : Char) (text : String)
  /-- `r`, `R`, `w` or `W` with a file -/
  | file (letter : Char) (path : String)
  /-- `q` or `Q` with a status, or `l` with a width -/
  | number (letter : Char) (n : Option Nat)
  | substitute (s : Substitution)
  | transliterate (pairs : List (Char × Char))
  /-- a command that is only a letter -/
  | plain (letter : Char)

/-- A command, and for which lines. -/
structure Edit where
  start : Option EditAddress := none
  finish : Option EditEnd := none
  /-- it is for all other lines -/
  negated : Bool := false
  action : EditAction

/-! ## Reading -/

/-- Why a text is no script, and how much of it is left. -/
structure EditFault where
  text : String
  left : Nat
  /-- it is about the script as a whole -/
  whole : Bool := false

namespace EditScript

/-- Reads a script. -/
abbrev Reading (α : Type) := Except EditFault α

/-- Refuses a script. -/
def fail {α : Type} (text : String) (rest : List Char) : Reading α := throw { text, left := rest.length }

/-- The character is a blank inside a line. -/
def isBlank (c : Char) : Bool := c = ' ' || c = '\t'

/-- The character is a blank. -/
def isSpace (c : Char) : Bool := c = ' ' || (9 ≤ c.toNat && c.toNat ≤ 13)

/-- Skips blanks. -/
def skipBlanks (cs : List Char) : List Char := cs.dropWhile isBlank

/-- A set of characters up to its bracket, if it has one. -/
def takeSet? (cs : List Char) : Option (List Char × List Char) :=
  let (start, rest) := match cs with
    | '^' :: ']' :: rest => (['^', ']'], rest)
    | '^' :: rest => (['^'], rest)
    | ']' :: rest => ([']'], rest)
    | rest => ([], rest)
  let rec go : Nat → List Char → List Char → Option (List Char × List Char)
    | 0, _, _ => none
    | _ + 1, _, [] => none
    | _ + 1, taken, ']' :: rest => some (']' :: taken, rest)
    | n + 1, taken, '[' :: mark :: rest =>
      if mark = ':' || mark = '.' || mark = '=' then
        let inner := rest.takeWhile (· ≠ mark)
        match rest.drop inner.length with
        | _ :: ']' :: after => go n (']' :: mark :: inner.reverse ++ mark :: '[' :: taken) after
        | _ => none
      else go n ('[' :: taken) (mark :: rest)
    | n + 1, taken, c :: rest => if c = '\n' then none else go n (c :: taken) rest
  (go (rest.length + 1) start.reverse rest).map fun (taken, rest) ↦ (taken.reverse, rest)

/-- A text up to its delimiter, which loses a backslash before it; what follows comes with it. -/
def takeDelimited? (mark : Char) (pattern : Bool) : Nat → List Char → List Char →
    Option (List Char × List Char)
  | 0, _, _ => none
  | _ + 1, _, [] => none
  | n + 1, taken, c :: rest =>
    if c = mark then some (taken.reverse, rest)
    else if c = '\n' && pattern then none
    else if c = '[' && pattern then
      match takeSet? rest with
      | some (set, rest) => takeDelimited? mark pattern n (set.reverse ++ '[' :: taken) rest
      | none => none
    else if c = '\\' then
      match rest with
      | [] => none
      | d :: rest =>
        if d = 'n' && pattern then takeDelimited? mark pattern n ('\n' :: taken) rest
        else if d = mark && (pattern || d ≠ '&') then takeDelimited? mark pattern n (d :: taken) rest
        else takeDelimited? mark pattern n (d :: '\\' :: taken) rest
    else takeDelimited? mark pattern n (c :: taken) rest

/-- The character that a letter behind a backslash stands for. -/
def controlOf? (c : Char) : Option Char :=
  match c with
  | 'a' => some '\x07'
  | 'f' => some '\x0c'
  | 'n' => some '\n'
  | 'r' => some '\r'
  | 't' => some '\t'
  | 'v' => some '\x0b'
  | _ => none

/-- The character that digits behind a letter stand for; what follows comes with it. -/
def codeOf? (c : Char) (rest : List Char) : Option (Char × List Char) :=
  let read (width base : Nat) : Option (Char × List Char) :=
    let digits := (rest.take width).takeWhile fun d ↦ (Text.hexValue? d).any (· < base)
    if digits.isEmpty then none
    else
      let value := digits.foldl (fun n d ↦ base * n + (Text.hexValue? d).getD 0) 0
      some (Char.ofNat (value % 256), rest.drop digits.length)
  match c with
  | 'x' => read 2 16
  | 'o' => read 3 8
  | 'd' => read 3 10
  | _ => none

/-- The text of a pattern with the characters that escapes stand for. -/
def patternText : Nat → List Char → List Char
  | 0, cs => cs
  | _ + 1, [] => []
  | n + 1, '\\' :: c :: rest =>
    match controlOf? c, codeOf? c rest with
    | some d, _ => d :: patternText n rest
    | none, some (d, rest) =>
      let quoted := if "*.[]^$\\/+?()|\x7b\x7d".toList.contains d then ['\\', d] else [d]
      quoted ++ patternText n rest
    | none, none => '\\' :: c :: patternText n rest
  | n + 1, c :: rest => c :: patternText n rest

/-- The parts of a replacement. -/
def replacementOf : Nat → List Char → List Replacement
  | 0, _ => []
  | _ + 1, [] => []
  | n + 1, '\\' :: c :: rest =>
    if c.isDigit then .group (c.toNat - '0'.toNat) :: replacementOf n rest
    else if "LUEul".toList.contains c then .casing c :: replacementOf n rest
    else match controlOf? c, codeOf? c rest with
      | some d, _ => .text [d] :: replacementOf n rest
      | none, some (d, rest) => .text [d] :: replacementOf n rest
      | none, none => .text [c] :: replacementOf n rest
  | n + 1, '&' :: rest => .group 0 :: replacementOf n rest
  | n + 1, c :: rest => .text [c] :: replacementOf n rest

/-- Reads a pattern; the number of its groups comes with it. -/
def compile (d : Regex.Dialect) (cs : List Char) (fold : Bool) (rest : List Char) :
    Reading (EditPattern × Nat) :=
  if cs.isEmpty then return ({ regex := none, fold }, 9)
  else match Regex.read d (String.ofList (patternText (cs.length + 1) cs)) with
    | .ok (r, groups) => return ({ regex := some r, fold }, groups)
    | .error why => fail why.message rest

/-- An address at the start of a text, if there is one. -/
def readAddress (d : Regex.Dialect) (cs : List Char) :
    Reading (Option (EditAddress × List Char)) := do
  let pattern (mark : Char) (rest : List Char) : Reading (Option (EditAddress × List Char)) := do
    match takeDelimited? mark true (rest.length + 1) [] rest with
    | none => fail "unterminated address regex" []
    | some (text, rest) =>
      let flags := rest.takeWhile fun c ↦ c = 'I' || c = 'M'
      let rest := rest.drop flags.length
      let (p, _) ← compile d text (flags.contains 'I') rest
      return some (.pattern p, rest)
  match cs with
  | '/' :: rest => pattern '/' rest
  | '\\' :: mark :: rest => pattern mark rest
  | '$' :: rest => return some (.last, rest)
  | cs =>
    let digits := cs.takeWhile Char.isDigit
    if digits.isEmpty then return none
    let n := Text.readDecimal digits
    let rest := cs.drop digits.length
    match skipBlanks rest with
    | '~' :: more =>
      let step := (skipBlanks more).takeWhile Char.isDigit
      return some (.every n (Text.readDecimal step), (skipBlanks more).drop step.length)
    | _ => return some (.line n, rest)

/-- The end of a range. -/
def readEnd (d : Regex.Dialect) (cs : List Char) : Reading (EditEnd × List Char) := do
  let counted (make : Nat → EditEnd) (rest : List Char) : Reading (EditEnd × List Char) :=
    let digits := rest.takeWhile Char.isDigit
    if digits.isEmpty then fail "expected number" rest
    else return (make (Text.readDecimal digits), rest.drop digits.length)
  match cs with
  | '+' :: rest => counted .further rest
  | '~' :: rest => counted .multiple rest
  | _ => match ← readAddress d cs with
    | some (a, rest) => return (.address a, rest)
    | none => fail "unexpected \x60,'" cs

/-- What follows a command that is complete. -/
def readClose (cs : List Char) : Reading (List Char) :=
  match skipBlanks cs with
  | [] => return []
  | '}' :: rest => return '}' :: rest
  | '#' :: rest => return '#' :: rest
  | c :: rest => if c = '\n' || c = ';' then return rest else fail "extra characters after command" rest

/-- A line of text behind a command; a backslash before a line end keeps the text going. -/
def takeText : Nat → List Char → List Char × List Char
  | 0, cs => ([], cs)
  | _ + 1, [] => ([], [])
  | n + 1, '\\' :: c :: rest =>
    let (text, after) := takeText n rest
    (c :: text, after)
  | _ + 1, '\\' :: [] => ([], [])
  | n + 1, c :: rest =>
    if c = '\n' then ([], rest)
    else
      let (text, after) := takeText n rest
      (c :: text, after)

/-- The text of `a`, `i` or `c`. -/
def readText (letter : Char) (cs : List Char) : Reading (EditAction × List Char) :=
  let finish (body : List Char) : Reading (EditAction × List Char) :=
    let (text, rest) := takeText (body.length + 1) body
    return (.text letter (String.ofList text ++ "\n"), rest)
  match skipBlanks cs with
  | [] => fail "expected \\ after \x60a', \x60c' or \x60i'" []
  | '\\' :: rest =>
    match skipBlanks rest with
    | '\n' :: body => finish body
    | [] => return (.text letter "", [])
    | body => finish body
  | body => finish body

/-- A name up to the end of its line. -/
def readFileName (cs : List Char) : Reading (String × List Char) :=
  let body := skipBlanks cs
  let name := body.takeWhile (· ≠ '\n')
  if name.isEmpty then fail "missing filename in r/R/w/W commands" (body.drop 1)
  else return (String.ofList name, body.drop (name.length + 1))

/-- The options behind a substitution. -/
def readFlags : Nat → Substitution → (fold numbered : Bool) → List Char →
    Reading (Substitution × Bool × List Char)
  | 0, s, fold, _, cs => return (s, fold, cs)
  | n + 1, s, fold, numbered, cs =>
    match cs with
    | [] => return (s, fold, [])
    | '}' :: _ | '#' :: _ => return (s, fold, cs)
    | 'g' :: rest =>
      if s.all then fail "multiple \x60g' options to \x60s' command" rest
      else readFlags n { s with all := true } fold numbered rest
    | 'p' :: rest =>
      if s.prints then fail "multiple \x60p' options to \x60s' command" rest
      else readFlags n { s with prints := true } fold numbered rest
    | 'w' :: rest => do
      let (name, rest) ← readFileName rest
      return ({ s with file := some name }, fold, rest)
    | c :: rest =>
      if c = 'i' || c = 'I' then readFlags n s true numbered rest
      else if c = 'm' || c = 'M' || c = 'e' then readFlags n s fold numbered rest
      else if c = '\n' || c = ';' then return (s, fold, rest)
      else if c.isDigit then
        let digits := cs.takeWhile Char.isDigit
        let rest := cs.drop digits.length
        if numbered then fail "multiple number options to \x60s' command" rest
        else if Text.readDecimal digits = 0 then
          fail "number option to \x60s' command may not be zero" rest
        else readFlags n { s with number := Text.readDecimal digits } fold true rest
      else if isBlank c then readFlags n s fold numbered rest
      else fail "unknown option to \x60s'" rest

/-- A substitution behind its letter. -/
def readSubstitution (d : Regex.Dialect) (cs : List Char) : Reading (EditAction × List Char) := do
  let unterminated {α : Type} : Reading α := fail "unterminated \x60s' command" []
  match cs with
  | [] => unterminated
  | mark :: rest =>
    let some (pattern, rest) := takeDelimited? mark true (rest.length + 1) [] rest | unterminated
    let some (text, rest) := takeDelimited? mark false (rest.length + 1) [] rest | unterminated
    let replacement := replacementOf (text.length + 1) text
    let start : Substitution := { pattern := { regex := none }, replacement }
    let (s, fold, rest) ← readFlags (rest.length + 1) start false false rest
    let (p, groups) ← compile d pattern fold rest
    let wrong := replacement.findSome? fun
      | .group k => if groups < k then some k else none
      | _ => none
    match wrong with
    | some k =>
      let shown := "\\" ++ toString k
      fail s!"invalid reference {shown} on \x60s' command's RHS" rest
    | none => return (.substitute { s with pattern := p }, rest)

/-- The characters of a text whose escapes are read. -/
def plainChars : Nat → List Char → List Char
  | 0, cs => cs
  | _ + 1, [] => []
  | n + 1, '\\' :: c :: rest => (controlOf? c).getD c :: plainChars n rest
  | n + 1, c :: rest => c :: plainChars n rest

/-- A transliteration behind its letter. -/
def readTransliteration (cs : List Char) : Reading (EditAction × List Char) := do
  let unterminated {α : Type} : Reading α := fail "unterminated \x60y' command" []
  match cs with
  | [] => unterminated
  | mark :: rest =>
    let some (old, rest) := takeDelimited? mark false (rest.length + 1) [] rest | unterminated
    let some (new, rest) := takeDelimited? mark false (rest.length + 1) [] rest | unterminated
    let old := plainChars (old.length + 1) old
    let new := plainChars (new.length + 1) new
    if old.length ≠ new.length then fail "strings for \x60y' command are different lengths" rest
    let rest ← readClose rest
    return (.transliterate (old.zip new), rest)

/-- A command from its letter on. -/
def readAction (d : Regex.Dialect) (ranged : Bool) (cs : List Char) :
    Reading (EditAction × List Char) := do
  match cs with
  | [] => fail "missing command" []
  | letter :: rest =>
    if ['a', 'i', 'c'].contains letter then readText letter rest
    else if ['b', 't', 'T'].contains letter then
      let body := skipBlanks rest
      let name := body.takeWhile fun c ↦ !isSpace c && c ≠ ';' && c ≠ '}'
      let rest ← readClose (body.drop name.length)
      return (.jump letter (String.ofList name), rest)
    else if ['r', 'R', 'w', 'W'].contains letter then
      let (name, rest) ← readFileName rest
      return (.file letter name, rest)
    else if ['q', 'Q', 'l', 'L'].contains letter then
      if ranged && (letter = 'q' || letter = 'Q') then fail "command only uses one address" rest
      let digits := (skipBlanks rest).takeWhile Char.isDigit
      let rest ← readClose ((skipBlanks rest).drop digits.length)
      return (.number letter (if digits.isEmpty then none else some (Text.readDecimal digits)), rest)
    else if "=dDFgGhHnNpPxze".toList.contains letter then
      let rest ← readClose rest
      return (.plain letter, rest)
    else if letter = 's' then readSubstitution d rest
    else if letter = 'y' then readTransliteration rest
    else fail s!"unknown command: \x60{letter}'" rest

/-- Commands, the newest first, and the numbers of blocks that are open. -/
structure Draft where
  edits : List Edit := []
  blocks : List Nat := []

/-- Reads commands behind those that there are; the bound is on the length of the text. -/
def readFor (d : Regex.Dialect) : Nat → Draft → List Char → Reading Draft
  | 0, draft, _ => return draft
  | n + 1, draft, cs => do
    match cs.dropWhile fun c ↦ isSpace c || c = ';' with
    | [] => return draft
    | '#' :: rest => readFor d n draft (rest.dropWhile (· ≠ '\n'))
    | cs =>
      if cs.head? = some '+' || cs.head? = some '~' then
        fail "invalid usage of +N or ~N as first address" ((cs.drop 1).dropWhile Char.isDigit)
      let (start, rest) ← match ← readAddress d cs with
        | some (a, rest) => pure (some a, skipBlanks rest)
        | none => pure (none, cs)
      let (finish, rest) ← match start, rest with
        | some _, ',' :: more =>
          let (e, rest) ← readEnd d (skipBlanks more)
          pure (some e, skipBlanks rest)
        | _, rest => pure (none, rest)
      if let some (.line 0) := start then
        if !(finish matches some (.address (.pattern _))) then
          fail "invalid usage of line address 0" (rest.drop 1)
      let (negated, rest) ← match rest with
        | '!' :: more =>
          match more.dropWhile isBlank with
          | '!' :: after => fail "multiple \x60!'s" after
          | rest => pure (true, rest)
        | rest => pure (false, rest)
      let edit (action : EditAction) : Edit := { start, finish, negated, action }
      match rest with
      | '{' :: rest =>
        readFor d n
          { edits := edit (.opening 0) :: draft.edits, blocks := draft.edits.length :: draft.blocks }
          rest
      | '}' :: rest =>
        match draft.blocks with
        | [] => fail "unexpected \x60\x7d'" rest
        | opened :: blocks =>
          if start.isSome then fail "\x7d doesn't want any addresses" rest
          let rest ← readClose rest
          let behind := draft.edits.length + 1
          -- the block now knows where it ends
          let closed := draft.edits.mapIdx fun k e ↦
            if draft.edits.length - 1 - k = opened then { e with action := .opening behind } else e
          readFor d n { edits := edit .closing :: closed, blocks } rest
      | ':' :: rest =>
        if start.isSome then fail ": doesn't want any addresses" rest
        let body := skipBlanks rest
        let name := body.takeWhile fun c ↦ !isSpace c && c ≠ ';'
        if name.isEmpty then fail "\":\" lacks a label" body
        readFor d n { draft with edits := edit (.label (String.ofList name)) :: draft.edits }
          (body.drop name.length)
      | rest =>
        let (action, rest) ← readAction d finish.isSome rest
        readFor d n { draft with edits := edit action :: draft.edits } rest

/-- Reads a script behind what was read before. -/
def read (d : Regex.Dialect) (draft : Draft) (text : String) : Reading Draft :=
  readFor d (text.length + 1) draft text.toList

/-- The number of the command behind a label. -/
def labelIndex? (edits : List Edit) (name : String) : Option Nat :=
  edits.findIdx? fun e ↦ match e.action with
    | .label l => l == name
    | _ => false

/-- The commands of a script that is complete. -/
def finish (draft : Draft) : Except String (List Edit) :=
  let edits := draft.edits.reverse
  if !draft.blocks.isEmpty then .error "-e expression #1, char 0: unmatched \x60\x7b'"
  else
    let lacking := edits.findSome? fun e ↦ match e.action with
      | .jump _ name =>
        if name.isEmpty || (labelIndex? edits name).isSome then none else some name
      | _ => none
    match lacking with
    | some name => .error s!"can't find label for jump to \x60{name}'"
    | none => .ok edits

end EditScript

end RevisionGraph.Tools
