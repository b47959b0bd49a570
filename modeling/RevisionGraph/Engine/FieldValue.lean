import RevisionGraph.Files.Path

/-!
# What fields of templates stand for

A field starts from a path and goes on to its parts: texts, lists of texts, the paths above it, its
operations and its kind.

* **Parts.**  `FieldValue.part` is a part with a name; `FieldValue.entry` the
  entry at a position.
* **Showing.**  `FieldValue.toText` is a value as text, `FieldValue.display` as messages show it.
* **Layouts.**  Only texts can be laid out.
-/

set_option autoImplicit false

namespace RevisionGraph

namespace Engine

/-! ## Values -/

/-- What a field of a template can stand for. -/
inductive FieldValue where
  | path (p : Path)
  | text (s : String)
  | texts (items : List String)
  /-- texts in parentheses -/
  | tuple (items : List String)
  /-- the paths above a path, the nearest first -/
  | ancestors (p : Path)
  /-- what can be done with a path; `owner` is the kind of path that can do it -/
  | operation (owner name : String) (p : Path)
  /-- the kind of a value and where that is defined, which is nowhere for the kinds that need no
  definition -/
  | kind (home : Option String) (name : String)
  deriving DecidableEq

namespace FieldValue

/-- What a message calls a value of the kind. -/
def kindName : FieldValue → String
  | .path _ => "PosixPath"
  | .text _ => "str"
  | .texts _ => "list"
  | .tuple _ => "tuple"
  | .ancestors _ => "_PathParents"
  | .operation _ _ _ => "method"
  | .kind _ _ => "type"

/-- The kind of a value, itself a value. -/
def kindOf : FieldValue → FieldValue
  | .path p => .kind (some "pathlib") (FieldValue.path p).kindName
  | .ancestors p => .kind (some "pathlib") (FieldValue.ancestors p).kindName
  | v => .kind none v.kindName

/-! ## Showing -/

/-- A path as messages show it. -/
def displayPath (p : Path) : String := "PosixPath(" ++ Text.quoted p.toText ++ ")"

/-- Texts between parentheses; a single one has a comma behind it. -/
def displayTuple : List String → String
  | [item] => "(" ++ Text.quoted item ++ ",)"
  | items => "(" ++ ", ".intercalate (items.map Text.quoted) ++ ")"

/-- The value as a message shows it. -/
def display : FieldValue → String
  | .path p => displayPath p
  | .text s => Text.quoted s
  | .texts items => "[" ++ ", ".intercalate (items.map Text.quoted) ++ "]"
  | .tuple items => displayTuple items
  | .ancestors _ => "<PosixPath.parents>"
  | .operation owner name p => s!"<bound method {owner}.{name} of " ++ displayPath p ++ ">"
  | .kind home name => "<class '" ++ (home.elim "" (· ++ ".")) ++ name ++ "'>"

/-- The text that is filled in for a value. -/
def toText : FieldValue → String
  | .path p => p.toText
  | .text s => s
  | v => v.display

/-! ## Parts -/

/-- What can be done with any path, and what only with one that files can be found by. -/
def operations : List (String × List String) := [
  ("PurePath", [
    "as_posix", "as_uri", "is_absolute", "is_relative_to", "is_reserved", "joinpath", "match",
    "relative_to", "with_name", "with_stem", "with_suffix"]),
  ("Path", [
    "absolute", "chmod", "exists", "expanduser", "glob", "group", "hardlink_to",
    "is_block_device", "is_char_device", "is_dir", "is_fifo", "is_file", "is_mount", "is_socket",
    "is_symlink", "iterdir", "lchmod", "link_to", "lstat", "mkdir", "open", "owner", "read_bytes",
    "read_text", "readlink", "rename", "replace", "resolve", "rglob", "rmdir", "samefile", "stat",
    "symlink_to", "touch", "unlink", "write_bytes", "write_text"])]

/-- A part of a path. -/
def pathPart? (p : Path) : String → Option FieldValue
  | "name" => some (.text p.name)
  | "stem" => some (.text p.stem)
  | "suffix" => some (.text p.suffix)
  | "suffixes" => some (.texts p.suffixes)
  | "parent" => some (.path p.parent)
  | "parents" => some (.ancestors p)
  | "parts" => some (.tuple p.components)
  | "root" => some (.text p.anchor.text)
  | "anchor" => some (.text p.anchor.text)
  | "drive" => some (.text "")
  | name =>
    (operations.find? fun o ↦ o.2.contains name).map fun o ↦ .operation o.1 name p

/-- A value as messages about its parts name it.  An operation has the parts of a function. -/
def subject : FieldValue → String
  | .kind _ name => s!"type object '{name}'"
  | .operation _ _ _ => "'function' object"
  | v => s!"'{v.kindName}' object"

/-- A part of a value. -/
def part (v : FieldValue) (name : String) : Except ConversionFault FieldValue :=
  let found := match v, name with
    | v, "__class__" => some v.kindOf
    | .path p, name => pathPart? p name
    | .operation _ name _, "__name__" => some (.text name)
    | .kind _ name, "__name__" => some (.text name)
    | _, _ => none
  match found with
  | some part => .ok part
  | none => .error (.unknownAttribute v.subject name)

/-- The value has no entries. -/
def withoutEntries : FieldValue → ConversionFault
  | .kind _ name => .notSubscriptable s!"type '{name}'"
  | v => .notSubscriptable s!"'{v.kindName}' object"

/-- The text at a position among the entries of a kind of value. -/
def pick (kind : String) (items : List String) (position : Nat) :
    Except ConversionFault FieldValue :=
  match items[position]? with
  | some item => .ok (.text item)
  | none => .error (.entryOutOfRange kind)

/-- The entry at a position, counted from zero. -/
def entry (v : FieldValue) (position : Nat) : Except ConversionFault FieldValue :=
  match v with
  | .text s => pick "string" (s.toList.map String.singleton) position
  | .texts items | .tuple items => pick v.kindName items position
  | .ancestors p => match p.ancestors[position]? with
    | some above => .ok (.path above)
    | none => .error (.ancestorOutOfRange position)
  | .path _ | .operation _ _ _ | .kind _ _ => .error v.withoutEntries

/-- Entries have positions and no names; this is what a name for one leads to. -/
def namedEntry (v : FieldValue) : ConversionFault :=
  match v with
  | .text _ => .entryNotNumbered "string indices must be integers, not 'str'"
  | .texts _ | .tuple _ =>
    .entryNotNumbered s!"{v.kindName} indices must be integers or slices, not str"
  | .ancestors _ => .entryNotNumbered "'>=' not supported between instances of 'str' and 'int'"
  | .path _ | .operation _ _ _ | .kind _ _ => v.withoutEntries

/-! ## Layouts -/

/-- The value as text, laid out; an empty layout changes nothing. -/
def arrange (v : FieldValue) (layout : String) : Except ConversionFault String :=
  if layout.isEmpty then .ok v.toText
  else match v with
    | .text s => match Text.Layout.read layout >>= fun l ↦ l.arrange s with
      | .ok set => .ok set
      | .error e => .error (.layout e)
    | v => .error (.unsupportedLayout v.kindName)

end FieldValue

end Engine

end RevisionGraph
