import RevisionGraph.Simulation.Text.Regex.Basic

/-!
# Reading regular expressions

`Regex.read` reads the text of a regular expression in one of two dialects: in the basic one groups,
bounds and choices have backslashes before them, in the extended one they have none.
-/

set_option autoImplicit false

namespace RevisionGraph.Text

/-- Why a text is no regular expression. -/
inductive RegexFault where
  | emptySet
  | unmatchedBracket
  | unmatchedOpening
  | unmatchedClosing
  | unmatchedBrace
  | trailingBackslash
  | badReference
  | badRange
  | badKind
  | badBounds
  | nothingToRepeat
  deriving DecidableEq, Repr

/-- What is said of a text that is no regular expression. -/
def RegexFault.message : RegexFault → String
  | .emptySet => "Invalid regular expression"
  | .unmatchedBracket => "Unmatched [, [^, [:, [., or [="
  | .unmatchedOpening => "Unmatched ( or \\("
  | .unmatchedClosing => "Unmatched ) or \\)"
  | .unmatchedBrace => "Unmatched \\\x7b"
  | .trailingBackslash => "Trailing backslash"
  | .badReference => "Invalid back reference"
  | .badRange => "Invalid range end"
  | .badKind => "Invalid character class name"
  | .badBounds => "Invalid content of \\\x7b\\\x7d"
  | .nothingToRepeat => "Invalid preceding regular expression"

namespace Regex

/-- How regular expressions are written. -/
inductive Dialect where
  | basic
  | extended
  deriving DecidableEq

/-! ## Sets -/

/-- The items of a set up to its bracket; the bound is on the length of the text. -/
def readItems : Nat → (first : Bool) → CharSet → List Char →
    Except RegexFault (CharSet × List Char)
  | 0, _, _, _ => .error .unmatchedBracket
  | _ + 1, _, _, [] => .error .unmatchedBracket
  | n + 1, first, s, ']' :: rest =>
    if first then readRange n s ']' rest else .ok (s, rest)
  | n + 1, _, s, '[' :: ':' :: rest =>
    let name := rest.takeWhile Char.isAlpha
    match rest.drop name.length with
    | ':' :: ']' :: rest =>
      if charKinds.any (·.1 == String.ofList name) then
        readItems n false { s with kinds := String.ofList name :: s.kinds } rest
      else .error .badKind
    | _ => .error .unmatchedBracket
  | n + 1, _, s, '[' :: mark :: c :: rest =>
    if mark = '.' || mark = '=' then
      match rest with
      | m :: ']' :: rest =>
        if m = mark then readRange n s c rest else .error .unmatchedBracket
      | _ => .error .unmatchedBracket
    else readRange n s '[' (mark :: c :: rest)
  | n + 1, _, s, c :: rest => readRange n s c rest
where
  readRange : Nat → CharSet → Char → List Char → Except RegexFault (CharSet × List Char)
    | 0, _, _, _ => .error .unmatchedBracket
    | n + 1, s, a, '-' :: b :: rest =>
      if b = ']' then
        readItems n false { s with ranges := (a, a) :: s.ranges } ('-' :: b :: rest)
      else
        let (b, rest) := match b, rest with
          | '[', mark :: c :: m :: ']' :: more =>
            if (mark = '.' || mark = '=') && m = mark then (c, more) else (b, rest)
          | _, _ => (b, rest)
        if b < a then .error .badRange
        else readItems n false { s with ranges := (a, b) :: s.ranges } rest
    | n + 1, s, a, rest => readItems n false { s with ranges := (a, a) :: s.ranges } rest

/-- A set behind its opening bracket. -/
def readSet (cs : List Char) : Except RegexFault (CharSet × List Char) :=
  match cs with
  | [] | ['^'] => .error .emptySet
  | '^' :: rest => readItems (2 * rest.length + 2) true { negated := true } rest
  | rest => readItems (2 * rest.length + 2) true {} rest

/-! ## Repetitions -/

/-- The greatest bound of a repetition. -/
def greatestBound : Nat := 32767

/-- Bounds up to the mark that closes them. -/
def readBounds (closing : List Char) (cs : List Char) :
    Except RegexFault ((Nat × Option Nat) × List Char) :=
  let least := cs.takeWhile Char.isDigit
  let rest := cs.drop least.length
  let (most, rest) : Option Nat × List Char := match rest with
    | ',' :: rest =>
      let digits := rest.takeWhile Char.isDigit
      (if digits.isEmpty then none else some (readDecimal digits), rest.drop digits.length)
    | rest => (some (readDecimal least), rest)
  let n := readDecimal least
  if !closing.isPrefixOf rest then
    .error (if rest.isEmpty then .unmatchedBrace else .badBounds)
  else if (least.isEmpty && cs.head? ≠ some ',') || most.any (· < n) || greatestBound < n ||
      most.any (greatestBound < ·) then .error .badBounds
  else .ok ((n, most), rest.drop closing.length)

/-- The repetition that the next characters ask for, if they do. -/
def readRepetition (d : Dialect) (cs : List Char) :
    Except RegexFault (Option ((Nat × Option Nat) × List Char)) :=
  match d, cs with
  | _, '*' :: rest => .ok (some ((0, none), rest))
  | .basic, '\\' :: '+' :: rest => .ok (some ((1, none), rest))
  | .basic, '\\' :: '?' :: rest => .ok (some ((0, some 1), rest))
  | .basic, '\\' :: '{' :: rest => (readBounds ['\\', '}'] rest).map some
  | .extended, '+' :: rest => .ok (some ((1, none), rest))
  | .extended, '?' :: rest => .ok (some ((0, some 1), rest))
  | .extended, '{' :: c :: rest =>
    if c.isDigit || c = ',' then (readBounds ['}'] (c :: rest)).map some else .ok none
  | _, _ => .ok none

/-- An expression with all repetitions behind it; the bound is on the length of the text. -/
def readRepetitions (d : Dialect) : Nat → Regex → List Char →
    Except RegexFault (Regex × List Char)
  | 0, r, cs => .ok (r, cs)
  | n + 1, r, cs => do
    match ← readRepetition d cs with
    | none => return (r, cs)
    | some ((least, most), rest) => readRepetitions d n (.repeated r least most) rest

/-! ## Whole expressions -/

/-- What a letter behind a backslash stands for. -/
def ofLetter? (c : Char) : Option Regex :=
  match c with
  | 'w' => some (.char { ranges := [('_', '_')], kinds := ["alnum"] })
  | 'W' => some (.char { negated := true, ranges := [('_', '_')], kinds := ["alnum"] })
  | 's' => some (.char { kinds := ["space"] })
  | 'S' => some (.char { negated := true, kinds := ["space"] })
  | 'b' => some (.boundary true)
  | 'B' => some (.boundary false)
  | '<' => some .wordStart
  | '>' => some .wordEnd
  | '\x60' => some .start
  | '\x27' => some .finish
  | _ => none

/-- Where a text stands in an expression. -/
structure Place where
  /-- how many groups are open -/
  depth : Nat := 0
  /-- how many groups there were -/
  groups : Nat := 0
  /-- numbers of groups that are closed -/
  closed : List Nat := []

/-- The next characters close a group. -/
def closes (d : Dialect) (cs : List Char) : Bool :=
  match d, cs with
  | .basic, '\\' :: ')' :: _ => true
  | .extended, ')' :: _ => true
  | _, _ => false

/-- What follows the mark of a choice, if one is next. -/
def choice? (d : Dialect) (cs : List Char) : Option (List Char) :=
  match d, cs with
  | .basic, '\\' :: '|' :: rest => some rest
  | .extended, '|' :: rest => some rest
  | _, _ => none

mutual

/-- Choices up to what closes them. -/
def readChoices (d : Dialect) : Nat → Place → List Char →
    Except RegexFault (Regex × Place × List Char)
  | 0, p, cs => .ok (.empty, p, cs)
  | n + 1, p, cs => do
    let (r, p, rest) ← readSequence d n true .empty p cs
    match choice? d rest with
    | some rest =>
      let (other, p, rest) ← readChoices d n p rest
      return (.alt r other, p, rest)
    | none => return (r, p, rest)

/-- What stands side by side; `first` says that nothing stood before. -/
def readSequence (d : Dialect) : Nat → (first : Bool) → Regex → Place → List Char →
    Except RegexFault (Regex × Place × List Char)
  | 0, _, r, p, cs => .ok (r, p, cs)
  | n + 1, first, r, p, cs => do
    if cs.isEmpty || (choice? d cs).isSome then return (r, p, cs)
    if closes d cs then
      if 0 < p.depth then return (r, p, cs)
      throw .unmatchedClosing
    let (one, p, rest) ← readOne d n first p cs
    let repeatable := !(first && one matches .start && d = .basic)
    let (one, rest) ← if repeatable then readRepetitions d (rest.length + 1) one rest
      else pure (one, rest)
    let whole := if r matches .empty then one else .seq r one
    -- a star behind an anchor is a star
    readSequence d n (first && !repeatable) whole p rest

/-- A character, a set, a group or an anchor. -/
def readOne (d : Dialect) : Nat → (first : Bool) → Place → List Char →
    Except RegexFault (Regex × Place × List Char)
  | 0, _, p, cs => .ok (.empty, p, cs)
  | n + 1, first, p, cs =>
    let group (rest : List Char) : Except RegexFault (Regex × Place × List Char) := do
      let number := p.groups + 1
      let (r, q, rest) ← readChoices d n { p with depth := p.depth + 1, groups := number } rest
      if !closes d rest then throw .unmatchedOpening
      let width := if d = .basic then 2 else 1
      return (.group number r, { q with depth := p.depth, closed := number :: q.closed },
        rest.drop width)
    match d, cs with
    | _, [] => .ok (.empty, p, [])
    | _, ['\\'] => .error .trailingBackslash
    | .basic, '\\' :: '(' :: rest => group rest
    | .extended, '(' :: rest => group rest
    | .basic, '\\' :: '{' :: rest =>
      if first then .error .nothingToRepeat else .ok (.char (.single '{'), p, rest)
    | _, '\\' :: c :: rest =>
      if c.isDigit && c ≠ '0' then
        let number := c.toNat - '0'.toNat
        if p.closed.contains number then .ok (.again number, p, rest) else .error .badReference
      else match ofLetter? c with
        | some r => .ok (r, p, rest)
        | none => .ok (.char (.single c), p, rest)
    | _, '[' :: rest => do
      let (s, rest) ← readSet rest
      return (.char s, p, rest)
    | _, '.' :: rest => .ok (.char .any, p, rest)
    | .basic, '^' :: rest => .ok (if first then .start else .char (.single '^'), p, rest)
    | .extended, '^' :: rest => .ok (.start, p, rest)
    | .basic, '$' :: rest =>
      let last := rest.isEmpty || closes d rest || (choice? d rest).isSome
      .ok (if last then .finish else .char (.single '$'), p, rest)
    | .extended, '$' :: rest => .ok (.finish, p, rest)
    | .extended, '*' :: rest =>
      if first then .ok (.empty, p, rest) else .ok (.char (.single '*'), p, rest)
    | .extended, '+' :: rest | .extended, '?' :: rest =>
      if first then .ok (.empty, p, rest) else .ok (.char (.single '+'), p, rest)
    | _, c :: rest => .ok (.char (.single c), p, rest)

end

/-- Reads a regular expression; the number of its groups comes with it. -/
def read (d : Dialect) (s : String) : Except RegexFault (Regex × Nat) := do
  let (r, p, rest) ← readChoices d (4 * s.length + 4) {} s.toList
  if rest.isEmpty then return (r, p.groups) else throw .unmatchedClosing

/-- The expression of one text alone. -/
def ofText (s : String) : Regex :=
  s.toList.foldl (fun r c ↦
    if r matches .empty then .char (.single c) else .seq r (.char (.single c))) .empty

end Regex

end RevisionGraph.Text
