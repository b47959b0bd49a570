import RevisionGraph.Json.Field
import RevisionGraph.Text.Split

/-!
# Paths

A `Path` is an anchor and components.  Empty components and single dots are dropped when a path is
read, two dots stay: where they lead depends on the files.

* **Anchors.**  A path is relative, or starts at the root; exactly two slashes at its start are an
  anchor of their own.
* **Joining.**  An anchored path replaces whatever it is joined to.
* **Home.**  `expandHome` replaces a tilde at the start by a home directory.
-/

set_option autoImplicit false

namespace RevisionGraph

/-- Where a path starts. -/
inductive Anchor where
  | relative
  | root
  | doubleRoot
  deriving DecidableEq, Repr

/-- How a path writes where it starts. -/
def Anchor.text : Anchor → String
  | .relative => ""
  | .root => "/"
  | .doubleRoot => "//"

/-- A path, cut at its slashes. -/
structure Path where
  anchor : Anchor
  parts : List String
  deriving DecidableEq, Repr

namespace Path

/-- The current directory. -/
def here : Path := ⟨.relative, []⟩

/-- The anchor of a text, from the number of slashes at its start. -/
def anchorOf (s : String) : Anchor :=
  match (s.toList.takeWhile (· == '/')).length with
  | 0 => .relative
  | 2 => .doubleRoot
  | _ => .root

/-- A component that stays when a path is read. -/
def isPart (s : String) : Bool := s != "" && s != "."

/-- The path that a text writes. -/
def ofText (s : String) : Path := ⟨anchorOf s, (Text.split '/' s).filter isPart⟩

/-- The text of a path. -/
def toText (p : Path) : String :=
  if p.anchor = .relative && p.parts.isEmpty then "." else p.anchor.text ++ Text.join '/' p.parts

/-- The second path seen from the first. -/
def join (p q : Path) : Path :=
  if q.anchor = .relative then { p with parts := p.parts ++ q.parts } else q

/-- Goes one text further, which may hold several components. -/
def append (p : Path) (s : String) : Path := p.join (ofText s)

/-! ## Parts of a path -/

/-- The last component. -/
def name (p : Path) : String := p.parts.getLast?.getD ""

/-- The path without its last component. -/
def parent (p : Path) : Path := { p with parts := p.parts.dropLast }

/-- The last point of a name that is neither its first nor its last character parts stem and
suffix. -/
def stemAndSuffix (p : Path) : String × String :=
  match Text.splitLast? '.' p.name with
  | some (before, after) =>
    if before != "" && after != "." then (before, after) else (p.name, "")
  | none => (p.name, "")

/-- The last part of a path without its suffix. -/
def stem (p : Path) : String := p.stemAndSuffix.1

/-- The suffix of the last part, with its dot. -/
def suffix (p : Path) : String := p.stemAndSuffix.2

/-- The suffixes of the last component, from the first on: points at its start begin none, and a
name that ends with a point has none. -/
def suffixes (p : Path) : List String :=
  if p.name.toList.getLast? = some '.' then []
  else
    let visible := String.ofList (p.name.toList.dropWhile (· == '.'))
    ((Text.split '.' visible).drop 1).map ("." ++ ·)

/-- The components, the anchor being the first of them. -/
def components (p : Path) : List String :=
  if p.anchor = .relative then p.parts else p.anchor.text :: p.parts

/-- The paths above a path, the nearest first. -/
def ancestors (p : Path) : List Path :=
  (List.range p.parts.length).map fun n ↦ { p with parts := p.parts.take (p.parts.length - n - 1) }

/-- The path holds a character that no file name holds. -/
def hasNul (p : Path) : Bool := p.parts.any fun part ↦ part.toList.contains '\x00'

/-! ## Home directories -/

/-- Replaces a first component that starts with a tilde by the home directory of the user whose
name follows it; `home` knows the directories, the empty name being the current user. -/
def expandHome (home : String → Option String) (p : Path) : Result Path :=
  match p.anchor, p.parts with
  | .relative, first :: rest =>
    match first.toList with
    | '~' :: user =>
      let unknown := .error (.runtime "Could not determine home directory.")
      match home (String.ofList user) with
      | some directory =>
        if directory.toList.head? = some '~' then unknown
        else .ok (rest.foldl append (ofText directory))
      | none => unknown
    | _ => .ok p
  | _, _ => .ok p

end Path

end RevisionGraph
