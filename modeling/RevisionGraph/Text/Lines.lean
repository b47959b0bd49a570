/-!
# Lines of a text

A line ends with a line feed, a carriage return, or the two together; `normalise` turns each of
the three into a single line feed.  `lines` then cuts the text after every line feed, which stays
with its line; what follows the last one is a line too, unless it is empty.
-/

set_option autoImplicit false

namespace RevisionGraph.Text

/-- Writes every line end as a line feed. -/
def normaliseChars : List Char → List Char
  | [] => []
  | '\r' :: '\n' :: rest => '\n' :: normaliseChars rest
  | '\r' :: rest => '\n' :: normaliseChars rest
  | c :: rest => c :: normaliseChars rest

/-- Cuts behind every mark. -/
def cutBehind {α : Type} [DecidableEq α] (mark : α) : List α → List (List α)
  | [] => []
  | c :: rest =>
    if c = mark then [mark] :: cutBehind mark rest
    else match cutBehind mark rest with
      | [] => [[c]]
      | line :: more => (c :: line) :: more

/-- Cuts after every line feed. -/
def cutLines : List Char → List (List Char) := cutBehind '\n'

/-- A text with every line end as a line feed. -/
def normalise (s : String) : String := String.ofList (normaliseChars s.toList)

/-- The lines of a text, each with its line feed. -/
def lines (s : String) : List String :=
  (cutLines (normaliseChars s.toList)).map String.ofList

/-- The whole lines at the start of a text, and what is left behind the last of them. -/
def cutWholeLines (cs : List Char) : List Char × List Char :=
  let tail := (cs.reverse.takeWhile (· != '\n')).reverse
  (cs.take (cs.length - tail.length), tail)

/-- The lines of a text that goes on: what has no line feed yet is no line, and a carriage return
may still get one. -/
def linesSoFar (s : String) : List String :=
  let cs := s.toList
  let held := if cs.getLast? = some '\r' then cs.dropLast else cs
  (cutLines (cutWholeLines (normaliseChars held)).1).map String.ofList

/-- The last `n` characters; `0` keeps the whole text and a negative count drops that many
characters at the front. -/
def tail (n : Int) (s : String) : String :=
  let cs := s.toList
  if 0 < n then String.ofList (cs.drop (cs.length - n.toNat))
  else String.ofList (cs.drop (-n).toNat)

end RevisionGraph.Text
