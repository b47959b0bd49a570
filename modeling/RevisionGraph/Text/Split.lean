/-!
# Cutting a text at a character

`split` cuts a text at every occurrence of a character; there is one piece more than there are
occurrences.  `join` puts pieces together again.
-/

set_option autoImplicit false

namespace RevisionGraph.Text

/-- Cuts at every separator, which goes. -/
def splitChars (sep : Char) : List Char → List (List Char)
  | [] => [[]]
  | c :: rest =>
    if c = sep then [] :: splitChars sep rest
    else match splitChars sep rest with
      | [] => [[c]]
      | piece :: more => (c :: piece) :: more

/-- The pieces of a text between separators. -/
def split (sep : Char) (s : String) : List String :=
  (splitChars sep s.toList).map String.ofList

/-- Puts pieces together with separators between them. -/
def join (sep : Char) (pieces : List String) : String := (String.singleton sep).intercalate pieces

/-- What stands before the last occurrence of a character and what from it on, if there is one. -/
def splitLast? (sep : Char) (s : String) : Option (String × String) :=
  let back := s.toList.reverse
  if back.contains sep then
    let after := (back.takeWhile (· != sep)).reverse
    let before := ((back.dropWhile (· != sep)).drop 1).reverse
    some (String.ofList before, String.ofList (sep :: after))
  else none

end RevisionGraph.Text
