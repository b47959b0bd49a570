import RevisionGraph.Simulation.Calendar.Basic
import RevisionGraph.Simulation.Files.Rights
import RevisionGraph.Simulation.Tools.Files

/-!
# Tools that tell about files

`ls` shows directories and `stat` single files; `readlink` and `realpath` tell where paths lead.

A `Listed` file is a name with what is known of it.
-/

set_option autoImplicit false

namespace RevisionGraph.Tools

open RevisionGraph.System ToolM

/-! ## Dates -/

/-- Half a year, in seconds. -/
def halfYear : Nat := 15778476

/-- A time in microseconds as lists of files show it at another one: by one layout if it is recent
and by another if not. -/
def dated (recent other : String) (now time : Nat) : String :=
  let isRecent := time ≤ now && now < time + halfYear * Calendar.tick
  Calendar.format (if isRecent then recent else other) time

/-- A date in a list. -/
def shortDate : Nat → Nat → String := dated "%b %e %H:%M" "%b %e  %Y"

/-! ## Files in lists -/

/-- What a list shows. -/
structure Listed where
  name : String
  look : Look
  /-- where a symbolic link points to -/
  target : Option String := none

/-- The letter of a kind of files. -/
def kindLetter : Kind → String
  | .directory => "d"
  | .file => "-"
  | .link => "l"
  | .pipe => "p"
  | .device => "c"

/-- The mark of a kind of files behind a name. -/
def kindMark (l : Look) : String :=
  match l.kind with
  | .directory => "/"
  | .link => "@"
  | .pipe => "|"
  | .file => if l.rights &&& 0o111 != 0 then "*" else ""
  | .device => ""

/-- How many blocks of 1024 bytes a file takes. -/
def blocksOf (l : Look) : Nat :=
  match l.kind with
  | .file | .directory => (l.size + 4095) / 4096 * 4
  | _ => 0

/-- A size with a unit, rounded up, with one place if it is below ten. -/
def humanSize (n : Nat) : String :=
  if n < 1024 then toString n
  else
    let units := ["K", "M", "G", "T"]
    let power := (List.range 4).find? fun k ↦ n ≤ 999 * 1024 ^ (k + 1) || k = 3
    let k := power.getD 0
    let tenths := (10 * n + 1024 ^ (k + 1) - 1) / 1024 ^ (k + 1)
    let shown := if tenths < 100 then s!"{tenths / 10}.{tenths % 10}" else toString ((tenths + 9) / 10)
    shown ++ units.getD k ""

/-- What makes a name fit for a shell or a reader of text. -/
def shownName (given : Given) (name : String) : String :=
  match given.lastOf ['Q', 'b', 'N', 'q'] with
  | some 'Q' => "\"" ++ (name.replace "\\" "\\\\").replace "\"" "\\\"" ++ "\""
  | some 'b' => ((name.replace "\\" "\\\\").replace " " "\\ ").replace "\n" "\\n"
  | some 'q' => name.map fun c ↦ if c.toNat < 32 || c.toNat = 127 then '?' else c
  | _ => name

/-- The option that says how files stand in a list. -/
def listStyle (given : Given) : Option Char :=
  (given.lastOf ['l', 'n', 'g', 'o', '1', 'C', 'x', 'm', '@']).map fun c ↦ if c = '@' then 'l' else c

/-- The list says much of each file. -/
def isLong (given : Given) : Bool := (listStyle given).any ['l', 'n', 'g', 'o'].contains

/-- A name with what stands around it. -/
def Listed.shown (given : Given) (f : Listed) : String :=
  let mark := match given.lastOf ['F', 'p'] with
    | some 'F' => if isLong given && f.look.kind == .link then "" else kindMark f.look
    | some _ => if f.look.kind == .directory then "/" else ""
    | none => ""
  (if given.has 'i' then toString f.look.number ++ " " else "") ++
    (if given.has 's' then toString (blocksOf f.look) ++ " " else "") ++
    shownName given f.name ++ mark ++
    (match isLong given, f.target with
      | true, some target => " -> " ++ shownName given target
      | _, _ => "")

/-- The date of a file in the style that the options ask for. -/
def Listed.date (given : Given) (now : Nat) (f : Listed) : String :=
  let style := ((given.filter fun o ↦ o.1 = '@' || o.1 = '%').getLast?.map fun o ↦
    o.2.getD "full-iso").getD "locale"
  match style.toList with
  | '+' :: layout =>
    let parts := Text.split '\n' (String.ofList layout)
    dated (parts.getD 1 (parts.headD "")) (parts.headD "") now f.look.time
  | _ =>
    if style = "full-iso" then Calendar.format "%Y-%m-%d %H:%M:%S.%N %z" f.look.time
    else if style = "long-iso" then Calendar.format "%Y-%m-%d %H:%M" f.look.time
    else if style = "iso" then dated "%m-%d %H:%M" "%Y-%m-%d " now f.look.time
    else shortDate now f.look.time

/-- The lines of a long list. -/
def longLines (given : Given) (now : Nat) (files : List Listed) : List String :=
  let size (l : Look) : String := if given.has 'h' then humanSize l.size else toString l.size
  let widest (f : Look → String) : Nat := (files.map fun x ↦ (f x.look).length).foldl max 0
  let fitted (f : Look → String) (l : Look) : String :=
    "".pushn ' ' (widest f - (f l).length) ++ f l
  let person := if given.has 'n' then "0" else "root"
  files.map fun f ↦
    let parts := [kindLetter f.look.kind ++ Rights.text f.look.rights,
        fitted (fun l ↦ toString l.names) f.look] ++
      (if given.has 'g' then [] else [person]) ++
      (if given.has 'o' || given.has 'G' then [] else [person]) ++
      [fitted size f.look, f.date given now, f.shown given]
    " ".intercalate parts

/-- Writes a list of files as the options ask. -/
def showList (given : Given) (files : List Listed) : ToolM Unit := do
  let names := files.map (·.shown given)
  match listStyle given with
  | some 'm' => if !names.isEmpty then printLine (", ".intercalate names)
  | some 'C' | some 'x' =>
    let line := "  ".intercalate names
    if line.length < 80 then
      if !names.isEmpty then printLine line
    else names.forM printLine
  | some '1' | none => names.forM printLine
  | some _ =>
    let now : Nat ← ask .clock
    (longLines given now files).forM printLine

/-- The order of files in a list. -/
def listedBefore (given : Given) (a b : Listed) : Bool :=
  let byName := (compare a.name b.name)
  let order := match given.lastOf ['t', 'S', 'X', 'U', 'v', 'f'] with
    | some 't' => (compare b.look.time a.look.time).then byName
    | some 'S' => (compare b.look.size a.look.size).then byName
    | some 'X' =>
      let ending (n : String) : String := ((Text.splitLast? '.' n).map Prod.snd).getD ""
      (compare (ending a.name) (ending b.name)).then byName
    | _ => byName
  if given.has 'r' then order.isGE else order.isLE

/-- What is known of a path under a name. -/
def listedAt (given : Given) (name path : String) (follow : Bool) : ToolM (Attempt Listed) := do
  match ← look path (follow || given.has 'L') with
  | .error cause =>
    -- a link that leads nowhere stands for itself
    match ← look path false with
    | .ok l =>
      if given.has 'L' then return .error cause
      let target ← ask (.readLink path)
      return .ok { name, look := l, target := target.toOption }
    | .error cause => return .error cause
  | .ok l =>
    let target ← if l.kind == .link then
      let target ← ask (.readLink path)
      pure target.toOption
      else pure none
    return .ok { name, look := l, target }

/-- Shows a directory and, if that is asked for, those in it; the bound is on their depth. -/
def showDirectory (given : Given) (titled : Bool) : Nat → (first : Bool) → String → ToolM Nat
  | 0, _, _ => return 2
  | n + 1, first, path => do
    match ← ask (.list path) with
    | .error cause =>
      flush
      complain s!"cannot open directory '{path}': {reason cause}"
      return 2
    | .ok names =>
      if titled then
        if !first then print "\n"
        printLine (path ++ ":")
      let hidden (name : String) : Bool := name.startsWith "."
      let visible := match given.lastOf ['a', 'A', 'f'] with
        | some 'A' => names
        | some _ => "." :: ".." :: names
        | none => names.filter (!hidden ·)
      let visible := if given.has 'B' then visible.filter (!·.endsWith "~") else visible
      let found ← visible.mapM fun name ↦ listedAt given name (within path name) false
      let files := (found.filterMap Except.toOption).mergeSort (listedBefore given)
      if given.has 's' || isLong given then
        let total := (files.map fun f ↦ blocksOf f.look).sum
        printLine s!"total {total}"
      showList given files
      if !given.has 'R' then return 0
      let inner := files.filter fun f ↦
        f.look.kind == .directory && f.name ≠ "." && f.name ≠ ".."
      inner.foldlM (fun status f ↦ do
        let s ← showDirectory given true n false (within path f.name)
        return max status s) 0

/-- Lists files. -/
def ls : Tool := do
  let table := OptionTable.make "aAbBcCdfFgGhHiklLmnNopqQrRsStuUvxXZ1I:w:T:"
    [("all", 'a'), ("almost-all", 'A'), ("escape", 'b'), ("ignore-backups", 'B'),
      ("directory", 'd'), ("classify", 'F'), ("human-readable", 'h'), ("inode", 'i'),
      ("dereference", 'L'), ("numeric-uid-gid", 'n'), ("literal", 'N'), ("quote-name", 'Q'),
      ("hide-control-chars", 'q'), ("reverse", 'r'), ("recursive", 'R'), ("size", 's'),
      ("group-directories-first", '!'), ("color", '?'), ("no-group", 'G'), ("full-time", '@'),
      ("time-style", '%')] true
  let table := { table with names := table.names.map fun n ↦
    if n.2.1 = '?' then (n.1, '?', .perhaps) else if n.2.1 = '%' then (n.1, '%', .always) else n }
  let (given, operands) ← options table 2
  let operands := if operands.isEmpty then ["."] else operands
  let asked := !given.has 'd' && !isLong given && !given.has 'F'
  let (found, status) ← operands.foldlM (fun (found, status) operand ↦ do
    -- a link to a directory is one unless the link itself is of interest
    match ← listedAt given operand operand asked with
    | .ok f => return (found ++ [f], status)
    | .error cause =>
      complain s!"cannot access '{operand}': {reason cause}"
      return (found, 2)) (([] : List Listed), 0)
  let isShownInside (f : Listed) : Bool := f.look.kind == .directory && !given.has 'd'
  let plain := (found.filter (!isShownInside ·)).mergeSort (listedBefore given)
  let directories := (found.filter isShownInside).mergeSort (listedBefore given)
  showList given plain
  let titled := 1 < operands.length || given.has 'R'
  let (status, _) ← directories.foldlM (fun (status, first) f ↦ do
    let s ← showDirectory given titled depthBound first f.name
    return (max status s, false)) (status, plain.isEmpty)
  return status

/-! ## Single files -/

/-- What a kind of files is called. -/
def kindName (l : Look) : String :=
  match l.kind with
  | .directory => "directory"
  | .file => if l.size = 0 then "regular empty file" else "regular file"
  | .link => "symbolic link"
  | .pipe => "fifo"
  | .device => "character special file"

/-- What a letter behind a percent sign stands for. -/
def fileDetail (path : String) (l : Look) (target : Option String) (letter : Char) : String :=
  match letter with
  | 'n' => path
  | 'N' => match target with
    | some t => s!"'{path}' -> '{t}'"
    | none => s!"'{path}'"
  | 's' => toString l.size
  | 'a' => String.ofList (Nat.toDigits 8 l.rights)
  | 'A' => kindLetter l.kind ++ Rights.text l.rights
  | 'F' => kindName l
  | 'U' | 'G' => "root"
  | 'u' | 'g' => "0"
  | 'i' => toString l.number
  | 'h' => toString l.names
  | 'b' => toString (2 * blocksOf l)
  | 'B' => "512"
  | 'o' => "4096"
  | 'X' | 'Y' | 'Z' => toString (l.time / 1000000)
  | 'x' | 'y' | 'z' => Calendar.format "%Y-%m-%d %H:%M:%S.%N %z" l.time
  | 'W' => "0"
  | 'w' => "-"
  | _ => "?"

/-- A layout with the details of a file in place of the letters behind percent signs. -/
def withDetails (detail : Char → String) : List Char → String
  | '%' :: '%' :: rest => "%" ++ withDetails detail rest
  | '%' :: c :: rest => detail c ++ withDetails detail rest
  | c :: rest => String.singleton c ++ withDetails detail rest
  | [] => ""

/-- Shows what is to be seen of files. -/
def stat : Tool := do
  let table := OptionTable.make "c:fLtp:" [("format", 'c'), ("printf", 'p'), ("dereference", 'L'),
    ("file-system", 'f'), ("terse", 't')] true
  let (given, operands) ← options table 1
  if operands.isEmpty then misuse 1 "missing operand"
  onEach operands fun path ↦ do
    match ← look path (given.has 'L') with
    | .error cause => refuse s!"cannot statx '{path}': {reason cause}"
    | .ok l =>
      let target ← if l.kind == .link then do
        let target ← ask (.readLink path)
        pure target.toOption
        else pure none
      let detail := fileDetail path l target
      match given.lastOf ['c', 'p'] with
      | some 'c' => printLine (withDetails detail ((given.value? 'c').getD "").toList)
      | some _ =>
        let layout := ((given.value? 'p').getD "").replace "\\n" "\n"
        print (withDetails detail layout.toList)
      | none =>
        printLine s!"  File: {path}"
        printLine s!"  Size: {l.size}\tBlocks: {2 * blocksOf l}\tIO Block: 4096\t{kindName l}"
        printLine <| "Access: (" ++ octal l.rights ++ "/" ++ detail 'A' ++
          ")  Uid: (    0/    root)   Gid: (    0/    root)"
      return true

/-! ## Where paths lead -/

/-- How much of a path must be there. -/
inductive Presence where
  | allButLast
  | all
  | nothing
  deriving DecidableEq

/-- The path without links and dots that a path leads to. -/
def canonical (presence : Presence) (path : String) : ToolM (Attempt String) := do
  if path.isEmpty then return .error .notFound
  let here ← ask .directory
  let start := if path.startsWith "/" then "" else here.getD ""
  let start := if start = "/" then "" else start
  let parts (s : String) : List String := (Text.split '/' s).filter fun n ↦ n ≠ "" && n ≠ "."
  let slash := path.endsWith "/"
  let walk ← iterateFor 5000 (start, parts path, 0, (none : Option FileCause))
    fun (done, rest, links, fault) ↦ do
      match rest with
      | [] => return ((done, rest, links, fault), false)
      | ".." :: more =>
        let up := directoryName done
        return ((if up = "/" || up = "." then "" else up, more, links, fault), true)
      | name :: more =>
        let next := done ++ "/" ++ name
        let fail (cause : FileCause) := ((done, rest, links, some cause), false)
        match ← look next false with
        | .ok l =>
          if l.kind == .link then
            match ← ask (.readLink next) with
            | .ok target =>
              if 40 ≤ links then return fail .tooManyLinks
              let base := if target.startsWith "/" then "" else done
              return ((base, parts target ++ more, links + 1, fault), true)
            | .error cause => return fail cause
          if l.kind != .directory && (!more.isEmpty || slash) && presence ≠ .nothing then
            return fail .notADirectory
          return ((next, more, links, fault), true)
        | .error cause =>
          match presence with
          | .nothing => return ((next, more, links, fault), true)
          | .all => return fail cause
          | .allButLast =>
            if more.isEmpty && cause = .notFound then return ((next, more, links, fault), true)
            return fail cause
  match walk with
  | (_, _, _, some cause) => return .error cause
  | (done, _, _, none) => return .ok (if done.isEmpty then "/" else done)

/-- Shows where symbolic links point to. -/
def readlink : Tool := do
  let table := OptionTable.make "femnqsvz" [("canonicalize", 'f'), ("canonicalize-existing", 'e'),
    ("canonicalize-missing", 'm'), ("no-newline", 'n'), ("quiet", 'q'), ("silent", 's'),
    ("verbose", 'v'), ("zero", 'z')] true
  let (given, operands) ← options table 1
  if operands.isEmpty then misuse 1 "missing operand"
  let ending := if given.has 'z' then "\x00" else if given.has 'n' && operands.length = 1 then ""
    else "\n"
  onEach operands fun path ↦ do
    let found ← match given.lastOf ['f', 'e', 'm'] with
      | some 'f' => canonical .allButLast path
      | some 'e' => canonical .all path
      | some _ => canonical .nothing path
      | none => ask (.readLink path)
    match found with
    | .ok text =>
      print (text ++ ending)
      return true
    | .error cause => if given.has 'v' then refuse s!"{path}: {reason cause}" else return false

/-- Shows where paths lead. -/
def realpath : Tool := do
  let table := OptionTable.make "eEmLPqsz" [("canonicalize-existing", 'e'),
    ("canonicalize-missing", 'm'), ("quiet", 'q'), ("no-symlinks", 's'), ("strip", 's'),
    ("zero", 'z'), ("physical", 'P'), ("logical", 'L')] true
  let (given, operands) ← options table 1
  if operands.isEmpty then misuse 1 "missing operand"
  let presence := match given.lastOf ['e', 'm'] with
    | some 'e' => Presence.all
    | some _ => .nothing
    | none => .allButLast
  onEach operands fun path ↦ do
    match ← canonical presence path with
    | .ok text =>
      print (text ++ if given.has 'z' then "\x00" else "\n")
      return true
    | .error cause => if given.has 'q' then return false else refuse s!"{path}: {reason cause}"

end RevisionGraph.Tools
