import RevisionGraph.Simulation.Calendar.Basic
import RevisionGraph.Simulation.Shell.Pattern
import RevisionGraph.Simulation.Text.Changes
import RevisionGraph.Simulation.Tools.Dumping
import RevisionGraph.Simulation.Tools.Files

/-!
# Tools that compare files

`cmp` finds the first byte in which files differ, or all of them; `diff` shows which lines of a file
are to be changed to get another, and compares the files of directories.
-/

set_option autoImplicit false

namespace RevisionGraph.Tools

open RevisionGraph.System ToolM

/-! ## Bytes -/

/-- A call that makes no sense, for tools that say their name before all lines. -/
def misuseTwice {α : Type} (status : Nat) (text : String) : ToolM α := do
  complain text
  complain s!"Try '{← name} --help' for more information."
  quit status

/-- The options and operands of such a tool. -/
def optionsTwice (t : OptionTable) (status : Nat) : ToolM (Given × List String) := do
  let arguments := (← get).call.arguments
  match t.readFor (arguments.length + 1) arguments with
  | .ok answer => return answer
  | .error why => misuseTwice status why

/-- Where two texts of bytes first differ, and the line of it. -/
def firstDifference : Text.Bytes → Text.Bytes → Nat → Nat → Option (Nat × Nat)
  | a :: as, b :: bs, n, line =>
    if a ≠ b then some (n, line)
    else firstDifference as bs (n + 1) (if a = 10 then line + 1 else line)
  | _, _, _, _ => none

/-- A byte with marks for what cannot be seen. -/
def visibleByte (b : UInt8) : String :=
  Text.Octets.ofBytes ({ tabs := true, marked := true : ByteStyle }.mark b)

/-- How many bytes are passed over in each of two files, from a text with a colon. -/
def skipsOf (text : String) : Nat × Nat :=
  match Text.split ':' text with
  | [a, b] => ((byteCount? a).getD 0, (byteCount? b).getD 0)
  | _ => let n := (byteCount? text).getD 0; (n, n)

/-- Compares two files byte by byte. -/
def cmp : Tool := do
  let (given, operands) ← optionsTwice (OptionTable.make "bi:ln:s" [("print-bytes", 'b'),
    ("ignore-initial", 'i'), ("verbose", 'l'), ("bytes", 'n'), ("silent", 's'), ("quiet", 's')] true) 2
  if operands.isEmpty then misuseTwice 2 s!"missing operand after '{← name}'"
  if let some extra := operands[4]? then misuseTwice 2 s!"extra operand '{extra}'"
  let first := operands.headD "-"
  let second := operands.getD 1 "-"
  let (skip1, skip2) := skipsOf ((given.value? 'i').getD "0")
  let skip1 := ((operands[2]?).bind byteCount?).getD skip1
  let skip2 := ((operands[3]?).bind byteCount?).getD skip2
  let read (operand : String) : ToolM Text.Bytes := do
    match ← withInput operand readAll with
    | .ok bytes => return bytes
    | .error cause =>
      if !(given.has 's' && cause = .notFound) then complain s!"{operand}: {reason cause}"
      quit 2
  let whole1 ← read first
  let whole2 ← read second
  let cut (skip : Nat) (bytes : Text.Bytes) : Text.Bytes :=
    let bytes := bytes.drop skip
    ((given.value? 'n').bind byteCount?).elim bytes bytes.take
  let a := cut skip1 whole1
  let b := cut skip2 whole2
  let shared := min a.length b.length
  let tellEnd : ToolM Unit := do
    if given.has 's' || a.length = b.length then return
    let (name, bytes) := if a.length < b.length then (first, a) else (second, b)
    flush
    if bytes.isEmpty then complain s!"EOF on {name} which is empty"
    else if given.has 'l' then complain s!"EOF on {name} after byte {bytes.length}"
    else
      let lines := bytes.count 10
      if bytes.getLast? = some 10 then
        complain s!"EOF on {name} after byte {bytes.length}, line {lines}"
      else complain s!"EOF on {name} after byte {bytes.length}, in line {lines + 1}"
  if given.has 'l' then
    let size := if ["-"].any [first, second].contains then 10 ^ 18
      else min (max whole1.length 1) (max whole2.length 1)
    let width := (toString size).length
    let octal (b : UInt8) : String := rightAligned 3 (digitsOf 8 1 b.toNat)
    let lines := (a.zip b).zipIdx.filterMap fun ((x, y), k) ↦
      if x = y then none
      else if given.has 'b' then some
        s!"{padded width (k + 1)} {octal x} {leftAligned 4 (visibleByte x)} {octal y} {visibleByte y}"
      else some s!"{padded width (k + 1)} {octal x} {octal y}"
    if !given.has 's' then lines.forM printLine
    tellEnd
    return if lines.isEmpty && a.length = b.length then 0 else 1
  match firstDifference (a.take shared) (b.take shared) 0 1 with
  | some (n, line) =>
    if !given.has 's' then
      let octal (b : UInt8) : String := rightAligned 3 (digitsOf 8 1 b.toNat)
      let detail (bytes : Text.Bytes) : String :=
        let b := bytes.getD n 0
        s!"{octal b} {visibleByte b}"
      let more := if given.has 'b' then s!" is {detail a} {detail b}" else ""
      printLine s!"{first} {second} differ: byte {n + 1}, line {line}{more}"
    return 1
  | none =>
    tellEnd
    return if a.length = b.length then 0 else 1

/-! ## Lines -/

/-- How changes are shown. -/
inductive ChangeLayout where
  | plain
  /-- with so many lines around them, on both sides at once -/
  | unified (context : Nat)
  /-- with so many lines around them, one side after the other -/
  | separate (context : Nat)
  | script
  deriving DecidableEq

/-- A file as it is compared. -/
structure Side where
  label : String
  lines : Array Line

namespace Side

/-- Lines of a side from a place on, with something before each. -/
def shown (s : Side) (mark : String) (start count : Nat) : String :=
  String.join ((s.lines.extract start (start + count)).toList.map fun l ↦
    mark ++ l.text ++ if l.closed then "\n" else "\n\\ No newline at end of file\n")

end Side

/-- The numbers of some lines, or of the one before them if there are none. -/
def lineRange (start count : Nat) : String :=
  if count ≤ 1 then toString (start + count) else s!"{start + 1},{start + count}"

/-- A change as the plain layout shows it. -/
def plainChange (a b : Side) (c : Text.Changes.Change) : String :=
  let letter := if c.removed = 0 then "a" else if c.added = 0 then "d" else "c"
  s!"{lineRange c.left c.removed}{letter}{lineRange c.right c.added}\n" ++
    a.shown "< " c.left c.removed ++ (if letter = "c" then "---\n" else "") ++
    b.shown "> " c.right c.added

/-- A change as a command of an editor. -/
def editorChange (b : Side) (c : Text.Changes.Change) : String :=
  let letter := if c.removed = 0 then "a" else if c.added = 0 then "d" else "c"
  s!"{lineRange c.left c.removed}{letter}\n" ++
    if c.added = 0 then "" else b.shown "" c.right c.added ++ ".\n"

/-- Changes that are shown together since no more than so many lines are between them. -/
def groupChanges (gap : Nat) : List Text.Changes.Change → List (List Text.Changes.Change)
  | [] => []
  | c :: rest =>
    match groupChanges gap rest with
    | (d :: group) :: groups =>
      if d.left - (c.left + c.removed) ≤ gap then (c :: d :: group) :: groups
      else [c] :: (d :: group) :: groups
    | groups => [c] :: groups

/-- The part of both sides that a group of changes is shown in: where it starts and ends. -/
structure Hunk where
  changes : List Text.Changes.Change
  left : Nat × Nat
  right : Nat × Nat

/-- Changes with the lines around them. -/
def Hunk.around (context : Nat) (a b : Side) (changes : List Text.Changes.Change) : Hunk :=
  let first := changes.headD ⟨0, 0, 0, 0⟩
  let last := changes.getLastD ⟨0, 0, 0, 0⟩
  let before := min context (min first.left first.right)
  let leftEnd := last.left + last.removed
  let rightEnd := last.right + last.added
  let behind := min context (min (a.lines.size - leftEnd) (b.lines.size - rightEnd))
  ⟨changes, (first.left - before, leftEnd + behind), (first.right - before, rightEnd + behind)⟩

/-- The numbers of the lines of a part, with their count. -/
def countedRange (part : Nat × Nat) : String :=
  let count := part.2 - part.1
  if count = 1 then toString (part.1 + 1)
  else s!"{if count = 0 then part.1 else part.1 + 1},{count}"

/-- A hunk with both sides at once. -/
def Hunk.unified (h : Hunk) (a b : Side) : String :=
  let (body, place) := h.changes.foldl (fun (body, place) c ↦
    (body ++ a.shown " " place (c.left - place) ++ a.shown "-" c.left c.removed ++
      b.shown "+" c.right c.added, c.left + c.removed)) ("", h.left.1)
  s!"@@ -{countedRange h.left} +{countedRange h.right} @@\n" ++ body ++
    a.shown " " place (h.left.2 - place)

/-- One side of a hunk. -/
def Hunk.side (h : Hunk) (s : Side) (part : Nat × Nat) (mark : String)
    (own : Text.Changes.Change → Nat × Nat) (other : Text.Changes.Change → Nat) : String :=
  if h.changes.all fun c ↦ (own c).2 = 0 then ""
  else
    let (body, place) := h.changes.foldl (fun (body, place) c ↦
      let (start, count) := own c
      (body ++ s.shown "  " place (start - place) ++
        s.shown (if other c = 0 then mark else "! ") start count, start + count)) ("", part.1)
    body ++ s.shown "  " place (part.2 - place)

/-- A hunk with one side after the other. -/
def Hunk.separate (h : Hunk) (a b : Side) : String :=
  let range (part : Nat × Nat) : String :=
    if part.2 ≤ part.1 + 1 then toString part.2 else s!"{part.1 + 1},{part.2}"
  s!"***************\n*** {range h.left} ****\n" ++
    h.side a h.left "- " (fun c ↦ (c.left, c.removed)) (·.added) ++
    s!"--- {range h.right} ----\n" ++
    h.side b h.right "+ " (fun c ↦ (c.right, c.added)) (·.removed)

/-- What of a line counts in a comparison. -/
def lineKey (given : Given) (l : Line) : String :=
  let isBlank (c : Char) : Bool := c = ' ' || c = '\t' || c = '\x0b' || c = '\x0c' || c = '\r'
  let cs := l.text.toList
  let cs := if given.has 'i' then cs.map Char.toLower else cs
  let loose := given.has 'w' || given.has 'b' || given.has 'Z'
  let cs :=
    if given.has 'w' then cs.filter (!isBlank ·)
    else if given.has 'b' then
      let (kept, _) := cs.foldl (fun (kept, wasBlank) c ↦
        if isBlank c then (if wasBlank then kept else ' ' :: kept, true) else (c :: kept, false))
        (([] : List Char), false)
      (kept.dropWhile (· == ' ')).reverse
    else if given.has 'Z' then (cs.reverse.dropWhile isBlank).reverse
    else cs
  String.ofList cs ++ if l.closed || loose then "\n" else ""

/-- The lines of bytes, the last one perhaps without its end. -/
def sideLines (bytes : Text.Bytes) : Array Line :=
  let (lines, left) := cutLines 10 [] bytes
  ((lines.map fun l ↦ (⟨Text.Octets.ofBytes l, true⟩ : Line)) ++
    if left.isEmpty then [] else [(⟨Text.Octets.ofBytes left, false⟩ : Line)]).toArray

/-- The layout that options ask for. -/
def changeLayout (given : Given) : ChangeLayout :=
  let count (value : Option String) : Nat := ((value.map String.toList).map Text.readDecimal).getD 3
  match (given.filter fun o ↦ ['u', 'U', 'c', 'C', 'e'].contains o.1).getLast? with
  | some ('u', value) | some ('U', value) => .unified (count value)
  | some ('c', value) | some ('C', value) => .separate (count value)
  | some ('e', _) => .script
  | _ => .plain

/-- All changes in a layout. -/
def showChanges (layout : ChangeLayout) (a b : Side) (changes : List Text.Changes.Change) : String :=
  let hunks (context : Nat) : List Hunk :=
    (groupChanges (2 * context) changes).map (Hunk.around context a b)
  match layout with
  | .plain => String.join (changes.map (plainChange a b))
  | .script => String.join (changes.reverse.map (editorChange b))
  | .unified context => s!"--- {a.label}\n+++ {b.label}\n" ++
      String.join ((hunks context).map (·.unified a b))
  | .separate context => s!"*** {a.label}\n--- {b.label}\n" ++
      String.join ((hunks context).map (·.separate a b))

/-- What is being compared. -/
structure Comparison where
  given : Given
  /-- the options as they were given -/
  options : String
  labels : List String

namespace Comparison

/-- Says why a file cannot be had. -/
def refuse (operand : String) (cause : FileCause) : ToolM Unit :=
  complain s!"{operand}: {reason cause}"

/-- A file as it is named before its changes. -/
def labelOf (c : Comparison) (k : Nat) (path : String) (time : Nat) : String :=
  c.labels.getD k (path ++ "\t" ++ match changeLayout c.given with
    | .separate _ => Calendar.format "%a %b %e %H:%M:%S %Y" time
    | _ => Calendar.format "%Y-%m-%d %H:%M:%S.%N %z" time)

/-- Compares two files; a title comes before what differs. -/
def files (c : Comparison) (title : Option String) (first second : String) : ToolM Nat := do
  let bytesOf (operand : String) : ToolM (Attempt Text.Bytes) := do
    match ← withInput operand readAll with
    | .error .notFound =>
      return if c.given.has 'N' then .ok [] else .error .notFound
    | result => return result
  let timeOf (operand : String) : ToolM Nat := do
    match ← (if operand = "-" then ask (.lookAt 0) else look operand true) with
    | .ok l => return l.time
    | .error _ => return 0
  let lacking ← [first, second].filterM fun operand ↦ do
    if operand = "-" || c.given.has 'N' then return false
    match ← look operand true with
    | .ok _ => return false
    | .error cause =>
      refuse operand cause
      return true
  if !lacking.isEmpty then return 2
  match ← bytesOf first, ← bytesOf second with
  | .error cause, other =>
    refuse first cause
    if let .error cause := other then refuse second cause
    return 2
  | .ok _, .error cause =>
    refuse second cause
    return 2
  | .ok x, .ok y =>
    let same := x = y
    let sayDiffer (kind : String) : ToolM Unit := printLine s!"{kind} {first} and {second} differ"
    if same then
      if c.given.has 's' then printLine s!"Files {first} and {second} are identical"
      return 0
    let binary := (x.contains 0 || y.contains 0) && !c.given.has 'a'
    if binary then
      sayDiffer (if c.given.has 'q' then "Files" else "Binary files")
      return 1
    let a : Side := { label := c.labelOf 0 first (← timeOf first), lines := sideLines x }
    let b : Side := { label := c.labelOf 1 second (← timeOf second), lines := sideLines y }
    let layout := changeLayout c.given
    let context := match layout with
      | .unified n | .separate n => n
      | _ => 0
    let keys (s : Side) : List String := s.lines.toList.map (lineKey c.given)
    let changes := Text.Changes.changes context (keys a) (keys b)
    let isIdle (change : Text.Changes.Change) : Bool :=
      c.given.has 'B' &&
        ((a.lines.extract change.left (change.left + change.removed)) ++
          (b.lines.extract change.right (change.right + change.added))).all (·.text.isEmpty)
    let changes := changes.filter (!isIdle ·)
    if changes.isEmpty then
      if c.given.has 's' then printLine s!"Files {first} and {second} are identical"
      return 0
    if c.given.has 'q' then sayDiffer "Files"
    else
      if let some title := title then printLine title
      print (showChanges layout a b changes)
    return 1

/-- Compares the files of two directories; the bound is on their depth. -/
def directories (c : Comparison) : Nat → String → String → ToolM Nat
  | 0, _, _ => return 2
  | n + 1, first, second => do
    let namesOf (path : String) : ToolM (Option (List String)) := do
      match ← ask (.list path) with
      | .ok names => return some names
      | .error cause =>
        if c.given.has 'N' && cause = .notFound then return some []
        refuse path cause
        return none
    match ← namesOf first, ← namesOf second with
    | some left, some right =>
      let excluded := (c.given.values 'x').map fun p ↦ Shell.Pattern.ofChars (p.toList.map (·, false))
      let names := (sortedTexts (left ++ right)).eraseDups.filter fun name ↦
        !excluded.any (·.matchesText name)
      names.foldlM (fun status name ↦ do
        let inFirst := left.contains name
        let inSecond := right.contains name
        let one := within first name
        let two := within second name
        let oneIs ← isDirectory one
        let twoIs ← isDirectory two
        let s ← do
          if !c.given.has 'N' && !(inFirst && inSecond) then
            printLine s!"Only in {if inFirst then first else second}: {name}"
            pure 1
          else if oneIs && twoIs || (c.given.has 'N' && c.given.has 'r' &&
              ((oneIs && !inSecond) || (twoIs && !inFirst))) then
            if c.given.has 'r' then directories c n one two
            else
              printLine s!"Common subdirectories: {one} and {two}"
              pure 0
          else if oneIs != twoIs then
            let kind (isDirectory_ : Bool) : String :=
              if isDirectory_ then "directory" else "regular file"
            printLine (s!"File {one} is a {kind oneIs} while file {two} is a {kind twoIs}")
            pure 1
          else c.files (some s!"diff{c.options} {one} {two}") one two
        return max status s) 0
    | _, _ => return 2

end Comparison

/-- Arguments without the operands that end them. -/
def withoutOperands (arguments operands : List String) : List String :=
  (operands.foldl (fun (left : List String) operand ↦ left.erase operand) arguments.reverse).reverse

/-- Compares two files line by line. -/
def diff : Tool := do
  let table := OptionTable.make "abBcC:deiL:nNqrstTuU:wx:yZ" [("text", 'a'),
    ("ignore-space-change", 'b'), ("ignore-blank-lines", 'B'), ("context", 'c'), ("minimal", 'd'),
    ("ed", 'e'), ("ignore-case", 'i'), ("label", 'L'), ("new-file", 'N'), ("brief", 'q'),
    ("recursive", 'r'), ("report-identical-files", 's'), ("unified", 'u'), ("ignore-all-space", 'w'),
    ("exclude", 'x'), ("ignore-trailing-space", 'Z'), ("normal", '!'), ("color", '?')] true
  let table := { table with names := table.names.map fun n ↦
    if ['c', 'u', '?'].contains n.2.1 then (n.1, n.2.1, .perhaps) else n }
  let (given, operands) ← optionsTwice table 2
  let arguments := (← get).call.arguments
  match operands with
  | [] => misuseTwice 2 s!"missing operand after '{arguments.getLastD (← name)}'"
  | [operand] => misuseTwice 2 s!"missing operand after '{arguments.getLastD operand}'"
  | [first, second] =>
    let options := String.join ((withoutOperands arguments operands).map (" " ++ ·))
    let c : Comparison := { given, options, labels := given.values 'L' }
    let one ← isDirectory first
    let two ← isDirectory second
    if one && two then c.directories depthBound first second
    else if two && first ≠ "-" && (← look first true).toBool then
      c.files none first (within second (baseName first))
    else if one && second ≠ "-" && (← look second true).toBool then
      c.files none (within first (baseName second)) second
    else c.files none first second
  | _ :: _ :: extra :: _ => misuseTwice 2 s!"extra operand '{extra}'"

end RevisionGraph.Tools
