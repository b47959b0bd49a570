import RevisionGraph.Files.Path
import RevisionGraph.Number.Operations
import RevisionGraph.OrderedMap

/-!
# File trees

A `FileTree` is the state of a file system.  A place is the list of the names that lead to something
from the root; under a place stands the number of a `Node`, so that a node may have several names.

* **Looking up.**  `follow` follows names from a place, through the symbolic links on the way, and
  says why it cannot.  `locate` does so for a path.
* **Reading.**  `find`, `read`, `isDirectory`, `names`.
* **Changing.**  `write`, `openToAppend`, `appendTo`, `makeDirectory`; a change that is refused
  changes nothing.  `makeDirectories` makes several and keeps those that it made.

All this is done by a superuser, whom the rights of a node keep from nothing; they are there for
programs to ask for.  Nobody else has a pipe open, so that nothing is read from one.
-/

set_option autoImplicit false

namespace RevisionGraph

/-- The names from the root to a file or directory. -/
abbrev Place := List String

/-- A file that is not kept: what is written there goes nowhere. -/
inductive Device where
  | null
  | zero
  /-- takes nothing -/
  | full
  | random
  /-- the terminal of a process, which here has none -/
  | terminal
  deriving DecidableEq, Repr

/-- What a node is. -/
inductive Content where
  | directory
  | file (bytes : Text.Bytes)
  | link (target : String)
  | pipe
  | device (d : Device)
  deriving DecidableEq

/-- A node of a file system. -/
structure Node where
  content : Content
  /-- three bits each for the owner, the group and others -/
  rights : Nat
  /-- when the content was changed last -/
  time : Nat
  deriving DecidableEq

/-- Rights as three digits write them. -/
def rightsOf (owner group others : Nat) : Nat := 64 * owner + 8 * group + others

/-- Somebody may execute the node. -/
def Node.isExecutable (n : Node) : Bool := n.rights &&& rightsOf 1 1 1 != 0

/-- The state of a file system. -/
structure FileTree where
  /-- the number of what is at a place; the root is always there and a directory -/
  numbers : OrderedMap Place Nat
  nodes : OrderedMap Nat Node
  /-- the number of the next node -/
  fresh : Nat
  /-- the time of what happens -/
  now : Nat
  /-- a new node does not get a number that is in use -/
  lt_fresh : ∀ n ∈ numbers.values, n < fresh

namespace FileTree

/-- The time at which everything begins, in microseconds since the start of 1970. -/
def beginning : Nat := 1760000000 * 10 ^ 6

/-- The tree in which there is only the root. -/
def empty : FileTree := ⟨.empty, .empty, 1, beginning, nofun⟩

/-- The number of the root. -/
def rootNumber : Nat := 0

/-- The directory at the root. -/
def root : Node := ⟨.directory, rightsOf 7 5 5, 0⟩

/-- The number of what is at a place. -/
def number? (t : FileTree) (place : Place) : Option Nat :=
  if place.isEmpty then some rootNumber else t.numbers.find? place

/-- What is at a place. -/
def node? (t : FileTree) (place : Place) : Option Node :=
  if place.isEmpty then some root else (t.numbers.find? place).bind t.nodes.find?

/-- The content of what is at a place. -/
def content? (t : FileTree) (place : Place) : Option Content := (t.node? place).map Node.content

/-- There is a directory at the place. -/
def isDirectoryAt (t : FileTree) (place : Place) : Bool := t.content? place == some .directory

/-! ## Looking up -/

/-- The greatest length of a name, in bytes. -/
def nameLimit : Nat := 255

/-- The greatest length of a path, in bytes. -/
def pathLimit : Nat := 4095

/-- How many symbolic links may stand on the way. -/
def linkLimit : Nat := 40

/-- Follows names from a place.  All but the last must lead to directories.  A symbolic link is left
to `jump`, which is given the place that its target starts from and the names to follow from there;
one at the end is followed only if `last` says so. -/
def step (t : FileTree) (last : Bool) (jump : Place → List String → Except FileCause Place) :
    Place → List String → Except FileCause Place
  | place, [] => .ok place
  | place, name :: rest =>
    if !t.isDirectoryAt place then .error .notADirectory
    else if nameLimit < name.utf8ByteSize then .error .nameTooLong
    else if name = "." then t.step last jump place rest
    else if name = ".." then t.step last jump place.dropLast rest
    else
      let next := place ++ [name]
      match t.content? next with
      | some (.link target) =>
        if rest.isEmpty && !last then .ok next
        else
          let names := (Text.split '/' target).filter (· != "")
          jump (if target.startsWith "/" then [] else place) (names ++ rest)
      | some _ => if rest.isEmpty then .ok next else t.step last jump next rest
      | none => if rest.isEmpty then .ok next else .error .notFound

/-- Follows names from a place through at most so many symbolic links. -/
def followFor (t : FileTree) (last : Bool) : Nat → Place → List String → Except FileCause Place
  | 0 => t.step last fun _ _ ↦ .error .tooManyLinks
  | n + 1 => t.step last (t.followFor last n)

/-- Follows names from a place through as many symbolic links as may stand on the way. -/
def follow (t : FileTree) (last : Bool) : Place → List String → Except FileCause Place :=
  t.followFor last linkLimit

/-- The place that a path leads to from a directory; nothing need be there. -/
def locate (t : FileTree) (cwd : Place) (p : Path) : Except FileCause Place :=
  if pathLimit < p.toText.utf8ByteSize then .error .nameTooLong
  else t.follow true (if p.anchor = .relative then cwd else []) p.parts

/-- What a path leads to. -/
def find (t : FileTree) (cwd : Place) (p : Path) : Except FileCause (Place × Node) := do
  let place ← t.locate cwd p
  match t.node? place with
  | some node => return (place, node)
  | none => throw .notFound

/-- The path leads to something. -/
def contains (t : FileTree) (cwd : Place) (p : Path) : Bool := (t.find cwd p).toBool

/-- The path leads to a directory. -/
def isDirectory (t : FileTree) (cwd : Place) (p : Path) : Bool :=
  match t.find cwd p with
  | .ok (_, node) => node.content == .directory
  | .error _ => false

/-- The content of a file. -/
def read (t : FileTree) (cwd : Place) (p : Path) : Except FileCause Text.Bytes := do
  match (← t.find cwd p).2.content with
  | .file bytes => return bytes
  | .directory => throw .isADirectory
  | _ => return []

/-- The names in a directory, in their order. -/
def names (t : FileTree) (place : Place) : List String :=
  let inside := t.numbers.keys.filter fun k ↦ !k.isEmpty && k.dropLast == place
  (inside.filterMap List.getLast?).mergeSort fun a b ↦ (compare a b).isLE

/-! ## Changing -/

/-- Puts a new node at a place. -/
def add (t : FileTree) (place : Place) (content : Content) (rights : Nat) : FileTree :=
  { t with
    numbers := t.numbers.insert place t.fresh
    nodes := t.nodes.insert t.fresh ⟨content, rights, t.now⟩
    fresh := t.fresh + 1
    lt_fresh := fun n hn ↦ by
      rcases OrderedMap.mem_values_insert hn with rfl | hold
      · exact Nat.lt_succ_self _
      · exact Nat.lt_succ_of_lt (t.lt_fresh n hold) }

/-- Gives what is at a place one more name. -/
def addName (t : FileTree) (origin place : Place) : FileTree :=
  match h : t.numbers.find? origin with
  | some number => { t with
      numbers := t.numbers.insert place number
      lt_fresh := fun n hn ↦ by
        rcases OrderedMap.mem_values_insert hn with rfl | hold
        · exact t.lt_fresh n (OrderedMap.mem_values_of_find? h)
        · exact t.lt_fresh n hold }
  | none => t

/-- Changes a node. -/
def modifyNode (t : FileTree) (number : Nat) (f : Node → Node) : FileTree :=
  match t.nodes.find? number with
  | some node => { t with nodes := t.nodes.insert number (f node) }
  | none => t

/-- The rights of a new file. -/
def fileRights : Nat := rightsOf 6 4 4

/-- The rights of a new directory. -/
def directoryRights : Nat := rightsOf 7 5 5

/-- Gives a file its content; it is made if it is not there. -/
def write (t : FileTree) (cwd : Place) (p : Path) (content : Text.Bytes) :
    Except FileCause FileTree := do
  let place ← t.locate cwd p
  match t.content? place, t.number? place with
  | some .directory, _ => throw .isADirectory
  | some (.file _), some number =>
    return t.modifyNode number fun node ↦ { node with content := .file content, time := t.now }
  | some _, _ => return t
  | none, _ => return t.add place (.file content) fileRights

/-- Opens a file so that it can be appended to, and makes it if it is not there.  What was opened is
known by its number from then on, wherever its path may lead. -/
def openToAppend (t : FileTree) (cwd : Place) (p : Path) : Except FileCause (FileTree × Nat) := do
  let place ← t.locate cwd p
  match t.content? place, t.number? place with
  | some .directory, _ => throw .isADirectory
  | some (.device .terminal), _ => throw .noDevice
  | some _, some number => return (t, number)
  | _, _ => return (t.add place (.file []) fileRights, t.fresh)

/-- Writes behind what is in a file that was opened.  Other nodes keep nothing, and a device may
take nothing either. -/
def appendTo (t : FileTree) (number : Nat) (bytes : Text.Bytes) : Except FileCause FileTree :=
  match (t.nodes.find? number).map Node.content with
  | some (.file held) =>
    .ok (t.modifyNode number fun node ↦
      { node with content := .file (held ++ bytes), time := t.now })
  | some (.device .full) => .error .noSpace
  | _ => .ok t

/-- Makes one directory where nothing is. -/
def makeDirectory (t : FileTree) (cwd : Place) (p : Path) : Except FileCause FileTree := do
  let place ← t.locate cwd p
  if (t.node? place).isSome then throw .alreadyExists
  return t.add place .directory directoryRights

/-- Makes a directory and those that lead to it; a directory that is there will do.  With the fault
comes what was made before it.  The bound is on the number of directories to make. -/
def makeDirectoriesFor (t : FileTree) (cwd : Place) : Nat → Path → FileTree × Option FileFault
  | 0, p => (t, some ⟨.notFound, p.toText⟩)
  | bound + 1, p =>
    let refuse (t : FileTree) (cause : FileCause) : FileTree × Option FileFault :=
      if t.isDirectory cwd p then (t, none) else (t, some ⟨cause, p.toText⟩)
    match t.makeDirectory cwd p with
    | .ok t => (t, none)
    | .error .notFound =>
      if p.parts.isEmpty then (t, some ⟨.notFound, p.toText⟩)
      else match t.makeDirectoriesFor cwd bound p.parent with
        | (t, some fault) => (t, some fault)
        | (t, none) => match t.makeDirectory cwd p with
          | .ok t => (t, none)
          | .error .notFound => (t, some ⟨.notFound, p.toText⟩)
          | .error cause => refuse t cause
    | .error cause => refuse t cause

/-- Makes a directory and all that lead to it. -/
def makeDirectories (t : FileTree) (cwd : Place) (p : Path) : FileTree × Option FileFault :=
  t.makeDirectoriesFor cwd (p.parts.length + 1) p

/-- Takes the names of what is at a place and below it away. -/
def remove (t : FileTree) (place : Place) : FileTree :=
  { t with
    numbers := ⟨t.numbers.entries.filter fun e ↦ !place.isPrefixOf e.1,
      t.numbers.nodup_keys.sublist (List.Sublist.map _ List.filter_sublist)⟩
    lt_fresh := fun n hn ↦ t.lt_fresh n ((List.filter_sublist.map Prod.snd).subset hn) }

/-- Gives what is at a place and below it other names. -/
def move (t : FileTree) (origin target : Place) : FileTree :=
  let moved := t.numbers.entries.filter fun e ↦ origin.isPrefixOf e.1
  let renamed := moved.map fun e ↦ (target ++ e.1.drop origin.length, e.2)
  let cleared := (t.remove target).remove origin
  { cleared with
    numbers := renamed.foldl (fun numbers e ↦ numbers.insert e.1 e.2) cleared.numbers
    lt_fresh := fun n hn ↦ by
      rcases OrderedMap.mem_values_foldl_insert hn with hrenamed | hcleared
      · obtain ⟨e, he, rfl⟩ := List.mem_map.mp hrenamed
        obtain ⟨d, hd, rfl⟩ := List.mem_map.mp he
        exact t.lt_fresh d.2 (List.mem_map_of_mem (List.mem_filter.mp hd).1)
      · exact cleared.lt_fresh n hcleared }

/-- How many names a node has. -/
def nameCount (t : FileTree) (number : Nat) : Nat := t.numbers.values.count number

/-- Puts something at a place and makes the directories that lead to it. -/
def plant (t : FileTree) (place : Place) (content : Content) (rights : Nat) : FileTree :=
  let above := (List.range place.length).map place.take
  let t := above.foldl
    (fun t p ↦ if (t.node? p).isSome then t else t.add p .directory directoryRights) t
  t.add place content rights

end FileTree

end RevisionGraph
