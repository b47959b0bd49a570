/-!
# Patterns for texts

A `Pattern` says which texts are meant: an asterisk stands for any characters, a question mark for
one, and brackets for one of a set.  A pattern is made from characters that are marked where they
stand for themselves alone.

* **Matching.**  `Pattern.matches` compares a pattern with a whole text.
* **Cutting.**  `cutStart` and `cutEnd` take a matching start or end away from a text.
-/

set_option autoImplicit false

namespace RevisionGraph.Shell

/-- A character, and whether it stands for itself alone. -/
abbrev MarkedChar := Char × Bool

namespace Pattern

/-! ## Kinds of characters -/

/-- The character is a mark of ASCII. -/
def isPunctuation (c : Char) : Bool := '!' ≤ c && c ≤ '~' && !c.isAlphanum

/-- The kinds of characters that have names. -/
def kinds : List (String × (Char → Bool)) := [
  ("alnum", Char.isAlphanum), ("alpha", Char.isAlpha), ("digit", Char.isDigit),
  ("lower", Char.isLower), ("upper", Char.isUpper), ("punct", isPunctuation),
  ("space", fun c ↦ c = ' ' || ('\t' ≤ c && c ≤ '\r')),
  ("blank", fun c ↦ c = ' ' || c = '\t'),
  ("print", fun c ↦ ' ' ≤ c && c ≤ '~'), ("graph", fun c ↦ '!' ≤ c && c ≤ '~'),
  ("cntrl", fun c ↦ c < ' ' || c = '\x7f'),
  ("xdigit", fun c ↦ c.isDigit || ('a' ≤ c && c ≤ 'f') || ('A' ≤ c && c ≤ 'F'))]

/-- The character is of the kind of that name. -/
def isOfKind (name : String) (c : Char) : Bool :=
  ((kinds.find? fun k ↦ k.1 == name).map fun k ↦ k.2 c).getD false

/-- What a set of characters is made of. -/
inductive Range where
  | between (first last : Char)
  | kind (name : String)
  deriving DecidableEq, Repr

/-- The character is in the range. -/
def Range.accepts (c : Char) : Range → Bool
  | .between first last => first ≤ c && c ≤ last
  | .kind name => isOfKind name c

/-- What an item of a pattern stands for. -/
inductive Item where
  | char (c : Char)
  | one
  | many
  /-- one character in one of the ranges, or in none of them -/
  | among (negated : Bool) (ranges : List Range)
  deriving DecidableEq, Repr

end Pattern

/-- A pattern for names. -/
abbrev Pattern := List Pattern.Item

namespace Pattern

/-! ## Reading -/

/-- The kind of characters that is named behind an opening bracket, and how many characters that
takes. -/
def kind? : List MarkedChar → Option (Range × Nat)
  | (':', false) :: rest =>
    let name := (rest.takeWhile fun c ↦ c.1 != ':').map Prod.fst
    match rest.drop name.length with
    | (':', false) :: (']', false) :: _ =>
      if kinds.any fun k ↦ k.1 == String.ofList name then
        some (.kind (String.ofList name), name.length + 3)
      else none
    | _ => none
  | _ => none

/-- The ranges up to a closing bracket, and how many characters they take with it; a closing bracket
right at the start is one of the characters.  The bound is on the number of ranges. -/
def rangesFor? : Nat → (first : Bool) → List MarkedChar → Option (List Range × Nat)
  | 0, _, _ => none
  | _ + 1, _, [] => none
  | n + 1, first, (c, marked) :: rest =>
    if c = ']' && !marked && !first then some ([], 1)
    else
      let go (r : Range) (taken : Nat) (rest : List MarkedChar) :=
        (rangesFor? n false rest).map fun (rs, m) ↦ (r :: rs, m + taken)
      match if c = '[' && !marked then kind? rest else none with
      | some (r, taken) => go r (taken + 1) (rest.drop taken)
      | none => match rest with
        | ('-', false) :: (d, k) :: more =>
          if d = ']' && !k then go (.between c c) 1 rest else go (.between c d) 3 more
        | rest => go (.between c c) 1 rest

/-- The set behind an opening bracket, and how many characters it takes. -/
def set? (cs : List MarkedChar) : Option (Item × Nat) :=
  match cs with
  | ('!', false) :: rest =>
    (rangesFor? (rest.length + 1) true rest).map fun (rs, n) ↦ (.among true rs, n + 1)
  | rest => (rangesFor? (rest.length + 1) true rest).map fun (rs, n) ↦ (.among false rs, n)

/-- The pattern that characters are. -/
def ofChars : List MarkedChar → Pattern
  | [] => []
  | (c, true) :: rest => .char c :: ofChars rest
  | ('\\', false) :: (c, _) :: rest => .char c :: ofChars rest
  | (c, false) :: rest =>
    if c = '*' then .many :: ofChars rest
    else if c = '?' then .one :: ofChars rest
    else if c = '[' then
      match set? rest with
      | some (item, length) => item :: ofChars (rest.drop length)
      | none => .char c :: ofChars rest
    else .char c :: ofChars rest
termination_by cs => cs.length
decreasing_by all_goals simp; try omega

/-! ## Matching -/

/-- The item stands for the character. -/
def Item.accepts : Item → Char → Bool
  | .char d, c => c == d
  | .one, _ => true
  | .many, _ => true
  | .among negated ranges, c => ranges.any (Range.accepts c) != negated

/-- The pattern matches all the characters. -/
def matchesChars : Pattern → List Char → Bool
  | [], cs => cs.isEmpty
  | .many :: p, [] => matchesChars p []
  | .many :: p, c :: cs => matchesChars p (c :: cs) || matchesChars (.many :: p) cs
  | _ :: _, [] => false
  | item :: p, c :: cs => item.accepts c && matchesChars p cs
termination_by p cs => p.length + cs.length

/-- The pattern stands for the text. -/
def matchesText (p : Pattern) (s : String) : Bool := p.matchesChars s.toList

/-! ## Cutting -/

/-- A text without a start that the pattern stands for. -/
def cutStart (p : Pattern) (longest : Bool) (s : String) : String :=
  let cs := s.toList
  let lengths := List.range (cs.length + 1)
  match (if longest then lengths.reverse else lengths).find? fun n ↦ p.matchesChars (cs.take n) with
  | some n => String.ofList (cs.drop n)
  | none => s

/-- A text without an end that the pattern stands for. -/
def cutEnd (p : Pattern) (longest : Bool) (s : String) : String :=
  let cs := s.toList
  let lengths := List.range (cs.length + 1)
  match (if longest then lengths else lengths.reverse).find? fun n ↦ p.matchesChars (cs.drop n) with
  | some n => String.ofList (cs.take n)
  | none => s

end Pattern

end RevisionGraph.Shell
