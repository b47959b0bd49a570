import RevisionGraph.Text.Digits

/-!
# Regular expressions

A `Regex` describes texts, and `Regex.run` finds all ways in which one describes a part of a text:
from a `Spot` where the part starts to the spots where it may end.  A spot also knows what the
groups stand for.

Where several parts fit, the one that starts first counts, and of those the longest.  Spots are
given in the order of preference: what is repeated is taken as often as possible.
-/

set_option autoImplicit false

namespace RevisionGraph.Text

/-! ## Characters -/

/-- Kinds of characters by their names. -/
def charKinds : List (String × (Char → Bool)) := [
  ("alpha", fun c ↦ c.isAlpha || 0x80 ≤ c.toNat), ("digit", Char.isDigit),
  ("alnum", fun c ↦ c.isAlphanum || 0x80 ≤ c.toNat), ("upper", Char.isUpper),
  ("lower", Char.isLower), ("blank", fun c ↦ c = ' ' || c = '\t'),
  ("space", fun c ↦ c = ' ' || (9 ≤ c.toNat && c.toNat ≤ 13)),
  ("punct", fun c ↦ '!' ≤ c && c ≤ '~' && !c.isAlphanum),
  ("print", fun c ↦ (' ' ≤ c && c ≤ '~') || 0x80 ≤ c.toNat),
  ("graph", fun c ↦ ('!' ≤ c && c ≤ '~') || 0x80 ≤ c.toNat),
  ("cntrl", fun c ↦ c.toNat < 32 || c.toNat = 127), ("xdigit", fun c ↦ (hexValue? c).isSome)]

/-- A character of a word. -/
def isWordChar (c : Char) : Bool := c.isAlphanum || c = '_' || 0x80 ≤ c.toNat

/-- Some characters, or all but those. -/
structure CharSet where
  negated : Bool := false
  ranges : List (Char × Char) := []
  /-- names of kinds -/
  kinds : List String := []
  deriving DecidableEq, Repr

namespace CharSet

/-- All characters. -/
def any : CharSet := { negated := true }

/-- One character. -/
def single (c : Char) : CharSet := { ranges := [(c, c)] }

/-- The character is in the set, letter case and negation aside. -/
def hasExactly (s : CharSet) (c : Char) : Bool :=
  s.ranges.any (fun r ↦ r.1 ≤ c && c ≤ r.2) ||
    s.kinds.any fun k ↦ (charKinds.find? (·.1 == k)).any fun e ↦ e.2 c

/-- The set has a character, in either case if `fold` says so. -/
def has (s : CharSet) (fold : Bool) (c : Char) : Bool :=
  s.negated != (s.hasExactly c || (fold && (s.hasExactly c.toLower || s.hasExactly c.toUpper)))

end CharSet

/-! ## Expressions -/

/-- A regular expression. -/
inductive Regex where
  | empty
  | char (s : CharSet)
  /-- the start of the text -/
  | start
  /-- the end of the text -/
  | finish
  | wordStart
  | wordEnd
  /-- the start or the end of a word, or neither of them -/
  | boundary (at_ : Bool)
  | group (number : Nat) (r : Regex)
  /-- what a group stands for -/
  | again (number : Nat)
  | seq (a b : Regex)
  | alt (a b : Regex)
  | repeated (r : Regex) (least : Nat) (most : Option Nat)
  deriving Repr

namespace Regex

/-- A text that is searched. -/
structure Subject where
  chars : Array Char
  /-- case does not matter -/
  fold : Bool := false

/-- A text to look for a match in. -/
def Subject.ofText (s : String) (fold : Bool) : Subject := ⟨s.toList.toArray, fold⟩

/-- A position in a text, and where each group that was passed starts and ends. -/
structure Spot where
  position : Nat
  groups : List (Nat × Nat × Nat) := []
  deriving DecidableEq

/-- Where a group starts and ends. -/
def Spot.group? (s : Spot) (number : Nat) : Option (Nat × Nat) :=
  (s.groups.find? (·.1 == number)).map Prod.snd

/-- The characters between two positions. -/
def Subject.part (t : Subject) (a b : Nat) : List Char := (t.chars.extract a b).toList

/-- There is a word character at the position. -/
def Subject.isWordAt (t : Subject) (k : Nat) : Bool := (t.chars[k]?).any isWordChar

/-- A word character stands before a position. -/
def Subject.isWordBefore (t : Subject) (k : Nat) : Bool := 0 < k && t.isWordAt (k - 1)

/-! ### Repetitions -/

/-- All spots that steps lead to from a spot, those of more steps first.  The bound is on the number
of steps. -/
def spread (step : Spot → List Spot) : Nat → List Spot × List Spot → Spot → List Spot × List Spot
  | 0, acc, _ => acc
  | n + 1, (seen, out), s =>
    if seen.contains s then (seen, out)
    else
      let (seen, out) := (step s).foldl (spread step n) (s :: seen, out)
      (seen, s :: out)

/-- Spots after exactly so many steps. -/
def after (step : Spot → List Spot) : Nat → List Spot → List Spot
  | 0, spots => spots
  | n + 1, spots => after step n (spots.flatMap step).eraseDups

/-- Spots after at most so many steps, those of more steps first. -/
def upTo (step : Spot → List Spot) : Nat → Spot → List Spot
  | 0, s => [s]
  | n + 1, s => ((step s).flatMap (upTo step n) ++ [s]).eraseDups

/-- How many characters of a set follow each other from a position on. -/
def runLength (t : Subject) (s : CharSet) (k : Nat) : Nat :=
  ((t.part k t.chars.size).takeWhile (s.has t.fold)).length

/-- The spots behind a character that is repeated. -/
def runSpots (t : Subject) (c : CharSet) (least : Nat) (most : Option Nat) (s : Spot) :
    List Spot :=
  let available := runLength t c s.position
  let longest := match most with
    | some m => min m available
    | none => available
  if longest < least then []
  else (List.range (longest - least + 1)).map fun k ↦ { s with position := s.position + longest - k }

/-! ### Matching -/

/-- The spots where a part that starts at a spot may end. -/
def run (t : Subject) : Regex → Spot → List Spot
  | .empty, s => [s]
  | .char c, s =>
    match t.chars[s.position]? with
    | some x => if c.has t.fold x then [{ s with position := s.position + 1 }] else []
    | none => []
  | .start, s => if s.position = 0 then [s] else []
  | .finish, s => if s.position = t.chars.size then [s] else []
  | .wordStart, s =>
    if t.isWordAt s.position && !t.isWordBefore s.position then [s] else []
  | .wordEnd, s =>
    if !t.isWordAt s.position && t.isWordBefore s.position then [s] else []
  | .boundary at_, s =>
    if (t.isWordAt s.position != t.isWordBefore s.position) == at_ then [s] else []
  | .group n r, s =>
    (run t r s).map fun e ↦
      { e with groups := (n, s.position, e.position) :: e.groups.filter (·.1 != n) }
  | .again n, s =>
    match s.group? n with
    | none => []
    | some (a, b) =>
      let wanted := t.part a b
      let found := t.part s.position (s.position + (b - a))
      let same := if t.fold then wanted.map Char.toLower == found.map Char.toLower
        else wanted == found
      if same then [{ s with position := s.position + (b - a) }] else []
  | .seq a b, s => ((run t a s).flatMap (run t b)).eraseDups
  | .alt a b, s => (run t a s ++ run t b s).eraseDups
  | .repeated (.char c) least most, s => runSpots t c least most s
  | .repeated r least most, s =>
    let first := after (run t r) least [s]
    match most with
    | some m => (first.flatMap (upTo (run t r) (m - least))).eraseDups
    | none => first.flatMap fun f ↦
      (spread (run t r) (2 * (t.chars.size - f.position) + 2) ([], []) f).2.reverse

/-- The longest part that starts at a position and ends as it should; of equal ones the first. -/
def longestAt (t : Subject) (r : Regex) (fits : Nat → Spot → Bool) (k : Nat) : Option Spot :=
  ((run t r ⟨k, []⟩).filter (fits k)).foldl (fun best s ↦ match best with
    | some b => if b.position < s.position then some s else best
    | none => some s) none

/-- The first part from a position on: where it starts and the spot where it ends. -/
def searchFor (t : Subject) (r : Regex) (fits : Nat → Spot → Bool) :
    Nat → Nat → Option (Nat × Spot)
  | 0, _ => none
  | n + 1, k =>
    match longestAt t r fits k with
    | some s => some (k, s)
    | none => searchFor t r fits n (k + 1)

/-- The first match from a position on. -/
def search (t : Subject) (r : Regex) (k : Nat) : Option (Nat × Spot) :=
  searchFor t r (fun _ _ ↦ true) (t.chars.size + 1 - k) k

end Regex

end RevisionGraph.Text
