import RevisionGraph.Simulation.Tools.Editing.Script
import RevisionGraph.Simulation.Tools.Files

/-!
# Editing lines

`sed` runs a script on each line of its input.  The `Editor` holds the line that is edited, a second
text, what is still to be read and what is to be written behind the line.
-/

set_option autoImplicit false

namespace RevisionGraph.Tools

open RevisionGraph.System ToolM
open RevisionGraph.Text (Regex)

/-! ## State -/

/-- What is written behind a line. -/
inductive Follower where
  | text (text : String)
  | file (path : String)

/-- What an editor holds. -/
structure Editor where
  /-- the line that is edited -/
  pattern : List Char := []
  hold : List Char := []
  number : Nat := 0
  /-- a line end closed the line -/
  closed : Bool := true
  /-- the last output had no line end -/
  open_ : Bool := false
  followers : List Follower := []
  /-- a substitution was made in this round -/
  changed : Bool := false
  /-- where the active ranges end, by the numbers of their commands -/
  ranges : List (Nat × Option Nat) := []
  /-- the pattern that was used last -/
  lastPattern : Option Regex := none
  /-- lines that were read but not yet edited -/
  queue : List Line := []
  left : Text.Bytes := []
  fd : Option Nat := none
  file : String := "-"
  files : List String
  /-- files that are written -/
  outputs : List (String × Nat) := []
  /-- files of which single lines are read -/
  sources : List (String × List String) := []
  status : Nat := 0
  /-- what was written instead of the file, the newest first -/
  gathered : List Text.Bytes := []

/-- How the lines are edited. -/
structure EditMode where
  quiet : Bool
  /-- each file is a text of its own -/
  separate : Bool
  /-- files get what is written, with an ending for the name of the old ones -/
  inPlace : Option String
  ending : UInt8

/-- What an editor does. -/
abbrev EditM := StateT Editor ToolM

namespace Editor

variable (mode : EditMode)

/-! ## Output -/

/-- Writes bytes where the edited text goes. -/
def out (bytes : Text.Bytes) : EditM Unit := do
  if mode.inPlace.isSome then modify fun e ↦ { e with gathered := bytes :: e.gathered }
  else ToolM.emit bytes

/-- Writes a text; one that has no end gets it when something follows. -/
def write (text : String) (closed : Bool) : EditM Unit := do
  if (← get).open_ then out mode [mode.ending]
  out mode (Text.Octets.toBytes (Text.Octets.ofName text) ++ if closed then [mode.ending] else [])
  modify fun e ↦ { e with open_ := !closed }

/-- Writes a text that holds its own line ends. -/
def writeText (text : String) : EditM Unit := do
  if (← get).open_ then out mode [mode.ending]
  out mode (Text.Octets.toBytes (Text.Octets.ofName text))
  modify fun e ↦ { e with open_ := false }

/-- Writes the line that is edited. -/
def writePattern : EditM Unit := do
  let e ← get
  write mode (String.ofList e.pattern) e.closed

/-- Writes a line to a file of the script. -/
def writeTo (path text : String) : EditM Unit := do
  if path = "/dev/stdout" then write mode text true
  else
    match (← get).outputs.find? (·.1 == path) with
    | some (_, fd) =>
      let _ ← ToolM.ask (.write fd (Text.Octets.toBytes (Text.Octets.ofName text) ++ [mode.ending]))
    | none => return

/-- Writes what belongs behind the line. -/
def writeFollowers : EditM Unit := do
  let e ← get
  set { e with followers := [] }
  e.followers.forM fun
    | .text text => writeText mode text
    | .file path => do
      match ← ToolM.withInput path ToolM.readAll with
      | .ok bytes =>
        if !bytes.isEmpty then
          if (← get).open_ then out mode [mode.ending]
          out mode bytes
          modify fun e ↦ { e with open_ := false }
      | .error _ => return

/-! ## Input -/

/-- Puts what was gathered in the place of a file. -/
def storeFile : EditM Unit := do
  let e ← get
  match mode.inPlace with
  | none => return
  | some suffix =>
    if !suffix.isEmpty then
      let _ ← ToolM.ask (.rename e.file (e.file ++ suffix))
    let rights ← ToolM.look (e.file ++ suffix) true
    let _ ← ToolM.ask (.remove e.file)
    let _ ← ToolM.writeFile e.file .anew e.gathered.reverse.flatten
    if let .ok l := rights then
      let _ ← ToolM.ask (.setRights e.file l.rights)
    set { e with gathered := [], open_ := false }

/-- Opens the next file; the answer says whether there was one. -/
def openNext : EditM Bool := do
  let e ← get
  match e.files with
  | [] => return false
  | file :: files =>
    set { e with files }
    if file = "-" && mode.inPlace.isNone then
      modify fun e ↦ { e with fd := some 0, file }
      return true
    let fail (text : String) (status : Nat) : EditM Bool := do
      ToolM.flush
      ToolM.complain text
      modify fun e ↦ { e with status }
      return true
    match ← ToolM.ask (.openFile file .toRead) with
    | .error cause => fail s!"can't read {file}: {reason cause}" 2
    | .ok fd =>
      if mode.inPlace.isSome && (← ToolM.isDirectory file) then
        let _ ← ToolM.ask (.close fd)
        fail s!"couldn't edit {file}: not a regular file" 4
      else
        modify fun e ↦
          { e with fd := some fd, file, number := if mode.separate then 0 else e.number }
        return true

/-- Sees to it that a line is there to be edited; with `crossing` it may be one of the next file. -/
def fill (crossing : Bool) : EditM Bool := do
  iterate false fun _ ↦ do
    let e ← get
    if !e.queue.isEmpty then return (true, false)
    match e.fd with
    | some fd =>
      match ← ToolM.ask (.read fd ToolM.chunkSize true) with
      | .ok (b :: bytes) =>
        let (lines, left) := cutLines mode.ending e.left.reverse (b :: bytes)
        set { e with queue := lines.map fun l ↦ ⟨Text.Octets.ofBytes l, true⟩, left }
        return (false, true)
      | result =>
        if let .error cause := result then
          ToolM.flush
          ToolM.complain s!"read error on {e.file}: {reason cause}"
          modify fun e ↦ { e with status := 2 }
        if fd ≠ 0 then
          let _ ← ToolM.ask (.close fd)
        let e ← get
        let queue := if e.left.isEmpty then [] else [⟨Text.Octets.ofBytes e.left, false⟩]
        set { e with fd := none, left := [], queue }
        return (!queue.isEmpty, queue.isEmpty)
    | none =>
      if !crossing then return (false, false)
      return (false, ← openNext mode)

/-- The line that is edited is the last one. -/
def isLast : EditM Bool := do
  let more ← fill mode (!mode.separate)
  if more then return false
  -- files that cannot be read do not count
  return true

/-- Takes the next line; the answer says whether there was one. -/
def takeLine : EditM (Option (List Char)) := do
  let here ← fill mode false
  let there ← if here then pure true else do
    if (← get).fd.isNone && mode.inPlace.isSome && 0 < (← get).number then
      storeFile mode
    fill mode true
  if !there then return none
  let e ← get
  match e.queue with
  | [] => return none
  | line :: queue =>
    set { e with queue, number := e.number + 1, closed := line.closed }
    return some (Text.Octets.toName line.text).toList

/-! ## Which lines are meant -/

/-- The pattern that counts. -/
def patternOf (p : EditPattern) : EditM Regex := do
  match p.regex with
  | some r =>
    modify fun e ↦ { e with lastPattern := some r }
    return r
  | none =>
    match (← get).lastPattern with
    | some r => return r
    | none => ToolM.abort 1 "-e expression #1, char 0: no previous regular expression"

/-- The address is that of the line. -/
def isMeant (a : EditAddress) : EditM Bool := do
  let e ← get
  match a with
  | .line n => return e.number = n
  | .last => isLast mode
  | .every first step =>
    return if step = 0 then e.number = first
      else first ≤ e.number && (e.number - first) % step = 0
  | .pattern p =>
    let r ← patternOf p
    return (Regex.search ⟨e.pattern.toArray, p.fold⟩ r 0).isSome

/-- The command of a number is for the line. -/
def selects (k : Nat) (edit : Edit) : EditM Bool := do
  match edit.start, edit.finish with
  | none, _ => return true
  | some a, none => isMeant mode a
  | some a, some finish =>
    let number := (← get).number
    let close : EditM Unit := modify fun e ↦ { e with ranges := e.ranges.filter (·.1 != k) }
    match (← get).ranges.find? (·.1 == k) with
    | some (_, some last) =>
      if last ≤ number then close
      return number ≤ last
    | some (_, none) =>
      match finish with
      | .address b =>
        if ← isMeant mode b then close
        return true
      | _ => return true
    | none =>
      if !(← isMeant mode a) then return false
      let activate (last : Option Nat) : EditM Unit :=
        modify fun e ↦ { e with ranges := (k, last) :: e.ranges }
      match finish with
      | .address (.line n) => if number < n then activate (some n)
      | .address _ => activate none
      | .further n => if 0 < n then activate (some (number + n))
      | .multiple n =>
        let last := if n = 0 then number else (number + n - 1) / n * n
        if number < last then activate (some last)
      return true

/-! ## Substitutions -/

/-- How the case of characters changes: for all that follow, and for the next one. -/
structure Casing where
  all : Option Char := none
  next : Option Char := none

/-- Changes the case of characters. -/
def Casing.apply (c : Casing) : List Char → List Char × Casing
  | [] => ([], c)
  | first :: rest =>
    let change (letter : Option Char) (cs : List Char) : List Char := match letter with
      | some 'U' | some 'u' => cs.map Char.toUpper
      | some _ => cs.map Char.toLower
      | none => cs
    (change (c.next.or c.all) [first] ++ change c.all rest, { c with next := none })

/-- What is put in place of a part. -/
def expand (t : Regex.Subject) (start : Nat) (s : Regex.Spot) (parts : List Replacement) :
    List Char :=
  (parts.foldl (fun (done, casing) part ↦
    match part with
    | .casing letter => match letter with
      | 'E' => (done, ({} : Casing))
      | 'U' | 'L' => (done, { casing with all := some letter })
      | _ => (done, { casing with next := some letter })
    | .text cs =>
      let (cs, casing) := casing.apply cs
      (done ++ cs, casing)
    | .group n =>
      let cs := if n = 0 then t.part start s.position
        else match s.group? n with
          | some (a, b) => t.part a b
          | none => []
      let (cs, casing) := casing.apply cs
      (done ++ cs, casing)) (([] : List Char), ({} : Casing))).1

/-- A text with replacements from a position on, of which `count` parts were found before; the flag
says whether there were any.  The bound is on the number of parts. -/
def replaceFor (t : Regex.Subject) (r : Regex) (s : Substitution) :
    Nat → (count k : Nat) → (previous : Option Nat) → List Char × Bool
  | 0, _, k, _ => (t.part k t.chars.size, false)
  | n + 1, count, k, previous =>
    match Regex.search t r k with
    | none => (t.part k t.chars.size, false)
    | some (a, e) =>
      let before := t.part k a
      let isEmpty := e.position = a
      -- an empty part right behind another one does not count
      if isEmpty && previous = some a then
        if t.chars.size ≤ a then (before, false)
        else
          let (rest, changed) := replaceFor t r s n count (a + 1) none
          (before ++ t.part a (a + 1) ++ rest, changed)
      else
        let replaced := s.number ≤ count + 1
        let new := if replaced then expand t a e s.replacement else t.part a e.position
        let step := if isEmpty then t.part a (a + 1) else []
        let next := if isEmpty then a + 1 else e.position
        if (replaced && !s.all) || t.chars.size < next then
          (before ++ new ++ t.part e.position t.chars.size, replaced)
        else
          let (rest, changed) := replaceFor t r s n (count + 1) next
            (if isEmpty then none else some e.position)
          (before ++ new ++ step ++ rest, replaced || changed)

/-- Replaces what matches. -/
def substitute (s : Substitution) : EditM Unit := do
  let r ← patternOf s.pattern
  let e ← get
  let t : Regex.Subject := ⟨e.pattern.toArray, s.pattern.fold⟩
  let (pattern, changed) := replaceFor t r s (2 * t.chars.size + 2) 0 0 none
  if changed then
    set { e with pattern, lastPattern := some r, changed := true }
    if s.prints then writePattern mode
    if let some path := s.file then writeTo mode path (String.ofList pattern)

/-! ## Commands -/

/-- What follows a command. -/
inductive Next where
  | goOn
  | goTo (k : Nat)
  /-- the round is over; `shown` says that the line is written -/
  | finish (shown : Bool)
  /-- the commands start again without a new line -/
  | again
  | quit (shown : Bool) (status : Nat)

/-- A line with marks for what cannot be seen, in pieces of a width. -/
def visible (width : Nat) (cs : List Char) : String :=
  let mark (c : Char) : List String :=
    match c with
    | '\\' => ["\\\\"]
    | '\x07' => ["\\a"]
    | '\x08' => ["\\b"]
    | '\x0c' => ["\\f"]
    | '\n' => ["\\n"]
    | '\r' => ["\\r"]
    | '\t' => ["\\t"]
    | '\x0b' => ["\\v"]
    | c =>
      if ' ' ≤ c && c ≤ '~' then [String.singleton c]
      else (Text.Octets.toBytes (Text.Octets.ofName (String.singleton c))).map fun b ↦
        let digits := Nat.toDigits 8 b.toNat
        "\\" ++ String.ofList (List.replicate (3 - digits.length) '0' ++ digits)
  let (lines, line) := (cs.flatMap mark).foldl (fun (lines, line) piece ↦
    if 1 < width && width - 1 < line.length + piece.length then (line :: lines, piece)
    else (lines, line ++ piece)) (([] : List String), "")
  "\\\n".intercalate (lines.reverse ++ [line ++ "$"])

/-- Runs one command. -/
def perform (edits : List Edit) (ranged : Bool) (action : EditAction) : EditM Next := do
  let e ← get
  let jump (name : String) : Next :=
    if name.isEmpty then .finish true
    else .goTo ((EditScript.labelIndex? edits name).getD edits.length)
  match action with
  | .opening _ | .closing | .label _ => return .goOn
  | .jump letter name =>
    if letter = 'b' then return jump name
    set { e with changed := false }
    return if e.changed == (letter = 't') then jump name else .goOn
  | .text letter text =>
    match letter with
    | 'a' =>
      set { e with followers := e.followers ++ [Follower.text text] }
      return .goOn
    | 'i' =>
      writeText mode text
      return .goOn
    | _ =>
      if !ranged then writeText mode text
      return .finish false
  | .file letter path =>
    match letter with
    | 'r' => set { e with followers := e.followers ++ [Follower.file path] }
    | 'R' =>
      let lines ← match e.sources.find? (·.1 == path) with
        | some (_, lines) => pure lines
        | none => match ← ToolM.withInput path ToolM.readAll with
          | .ok bytes => pure ((linesOf 10 bytes).map Text.Octets.toName)
          | .error _ => pure []
      let followers := (lines.take 1).map fun l ↦ Follower.text (l ++ "\n")
      set { e with
        followers := e.followers ++ followers
        sources := (path, lines.drop 1) :: e.sources.filter (·.1 != path) }
    | 'w' => writeTo mode path (String.ofList e.pattern)
    | _ => writeTo mode path (String.ofList (e.pattern.takeWhile (· ≠ '\n')))
    return .goOn
  | .number letter n =>
    match letter with
    | 'q' => return .quit true (n.getD 0)
    | 'Q' => return .quit false (n.getD 0)
    | 'l' =>
      write mode (visible (n.getD 70) e.pattern) true
      return .goOn
    | _ => return .goOn
  | .substitute s =>
    substitute mode s
    return .goOn
  | .transliterate pairs =>
    let replace (c : Char) : Char := ((pairs.find? (·.1 == c)).map Prod.snd).getD c
    set { e with pattern := e.pattern.map replace }
    return .goOn
  | .plain letter =>
    match letter with
    | '=' => write mode (toString e.number) true
    | 'd' => return .finish false
    | 'D' =>
      if !e.pattern.contains '\n' then return .finish false
      set { e with pattern := (e.pattern.dropWhile (· ≠ '\n')).drop 1 }
      return .again
    | 'F' => write mode e.file true
    | 'g' => set { e with pattern := e.hold }
    | 'G' => set { e with pattern := e.pattern ++ '\n' :: e.hold }
    | 'h' => set { e with hold := e.pattern }
    | 'H' => set { e with hold := e.hold ++ '\n' :: e.pattern }
    | 'x' => set { e with pattern := e.hold, hold := e.pattern }
    | 'z' => set { e with pattern := [] }
    | 'p' => writePattern mode
    | 'P' => write mode (String.ofList (e.pattern.takeWhile (· ≠ '\n'))) true
    | 'n' =>
      if ← isLast mode then return .quit true 0
      if !mode.quiet then writePattern mode
      writeFollowers mode
      match ← takeLine mode with
      | some pattern => modify fun e ↦ { e with pattern }
      | none => return .quit false 0
    | 'N' =>
      if ← isLast mode then return .quit true 0
      writeFollowers mode
      match ← takeLine mode with
      | some more => modify fun e ↦ { e with pattern := e.pattern ++ '\n' :: more }
      | none => return .quit false 0
    | _ => return .goOn
    return .goOn

/-- Runs the commands on the line. -/
def runScript (edits : List Edit) : EditM Next := do
  let commands := edits.toArray
  let (_, next) ← iterate (0, Next.finish true) fun (k, _) ↦ do
    match commands[k]? with
    | none => return ((k, .finish true), false)
    | some edit =>
      let chosen ← selects mode k edit
      if chosen == edit.negated then
        match edit.action with
        | .opening behind => return ((behind, .goOn), true)
        | _ => return ((k + 1, .goOn), true)
      let active := !edit.negated && (← get).ranges.any (·.1 == k)
      match ← perform mode edits active edit.action with
      | .goOn => return ((k + 1, .goOn), true)
      | .goTo k => return ((k, .goOn), true)
      | next => return ((k, next), false)
  return next

/-- Ends a round: writes the line, if it is shown, and what follows it. -/
def finishRound (shown : Bool) : EditM Unit := do
  if shown && !mode.quiet then writePattern mode
  writeFollowers mode

/-- Edits all lines and gives a status. -/
def editAll (edits : List Edit) : EditM Nat := do
  -- a range from before the first line is active at once
  let early := edits.zipIdx.filterMap fun (e, k) ↦
    if e.start matches some (.line 0) then some (k, (none : Option Nat)) else none
  modify fun e ↦ { e with ranges := early }
  let status ← iterate (none, false) fun (status, again) ↦ do
    let ready ← if again then pure true
      else match ← takeLine mode with
        | some pattern =>
          modify fun e ↦ { e with pattern, changed := false }
          pure true
        | none => pure false
    if !ready then return ((status, false), false)
    match ← runScript mode edits with
    | .quit shown status =>
      if shown then finishRound mode true
      return ((some status, false), false)
    | .again =>
      writeFollowers mode
      return ((status, true), true)
    | .finish shown =>
      finishRound mode shown
      return ((status, false), true)
    | _ => return ((status, false), true)
  if mode.inPlace.isSome && 0 < (← get).number then
    -- what was not edited stays
    let e ← get
    let rest := e.queue.flatMap fun l ↦
      Text.Octets.toBytes l.text ++ if l.closed then [mode.ending] else []
    set { e with gathered := rest :: e.gathered }
    storeFile mode
  return status.1.getD (← get).status

end Editor

/-! ## The tool -/

/-- The options of the editor. -/
def sedTable : OptionTable :=
  let table := OptionTable.make "ne:f:Eri::sl:uz" [("quiet", 'n'), ("silent", 'n'),
    ("expression", 'e'), ("file", 'f'), ("regexp-extended", 'E'), ("in-place", 'i'),
    ("separate", 's'), ("line-length", 'l'), ("unbuffered", 'u'), ("null-data", 'z'),
    ("posix", 'p'), ("sandbox", 'p'), ("debug", 'p')] true
  table

/-- Reads the pieces of a script one after the other; one that ends in a backslash goes on in the
next. -/
def readPieces (d : Regex.Dialect) : Nat → EditScript.Draft → List String →
    Except String EditScript.Draft
  | _, draft, [] => .ok draft
  | k, draft, [piece] =>
    match EditScript.read d draft piece with
    | .ok draft => .ok draft
    | .error why => .error s!"-e expression #{k}, char {piece.length - why.left}: {why.text}"
  | k, draft, piece :: next :: rest =>
    let slashes := (piece.toList.reverse.takeWhile (· == '\\')).length
    if slashes % 2 = 1 then readPieces d (k + 1) draft ((piece ++ "\n" ++ next) :: rest)
    else match EditScript.read d draft piece with
      | .ok draft => readPieces d (k + 1) draft (next :: rest)
      | .error why => .error s!"-e expression #{k}, char {piece.length - why.left}: {why.text}"
termination_by _ _ pieces => pieces.length

/-- Edits lines with a script. -/
def sed : Tool := do
  let arguments := (← get).call.arguments
  let (given, operands) ← match sedTable.readFor (arguments.length + 1) arguments with
    | .ok answer => pure answer
    | .error why =>
      complain why
      tell s!"Usage: {← name} [OPTION]... \x7bscript-only-if-no-other-script\x7d [input-file]...\n"
      quit 1
  let files ← (given.values 'f').mapM fun path ↦ do
    match ← withInput path readAll with
    | .ok bytes =>
      let text := Text.Octets.toName (Text.Octets.ofBytes bytes)
      pure (if text.endsWith "\n" then String.ofList text.toList.dropLast else text)
    | .error cause => abort 1 s!"couldn't open file {path}: {reason cause}"
  let pieces := (given.values 'e').map Text.Octets.toName ++ files
  if pieces.isEmpty && operands.isEmpty then
    tell s!"Usage: {← name} [OPTION]... \x7bscript-only-if-no-other-script\x7d [input-file]...\n"
    quit 1
  let (pieces, inputs) := if pieces.isEmpty then
      ([Text.Octets.toName (operands.headD "")], operands.drop 1)
    else (pieces, operands)
  let extended := given.has 'E' || given.has 'r'
  let dialect := if extended then Regex.Dialect.extended else .basic
  let edits ← match readPieces dialect 1 {} pieces with
    | .error why => abort 1 why
    | .ok draft => match EditScript.finish draft with
      | .ok edits => pure edits
      | .error why => abort 1 why
  let silent := (pieces.headD "").startsWith "#n\n" || (pieces.headD "") = "#n"
  let inPlace := if given.has 'i' then some ((given.value? 'i').getD "") else none
  let mode : EditMode := {
    quiet := given.has 'n' || silent, separate := given.has 's' || given.has 'i', inPlace
    ending := if given.has 'z' then 0 else 10 }
  -- files that are written begin empty
  let paths := edits.filterMap fun e ↦ match e.action with
    | .file 'w' path | .file 'W' path => some path
    | .substitute s => s.file
    | _ => none
  let outputs ← (paths.eraseDups.filter (· != "/dev/stdout")).mapM fun path ↦ do
    match ← ask (.openFile path .anew) with
    | .ok fd => pure (path, fd)
    | .error cause => abort 4 s!"couldn't open file {path}: {reason cause}"
  let editor : Editor := { files := if inputs.isEmpty then ["-"] else inputs, outputs }
  let (status, _) ← (Editor.editAll mode edits).run editor
  return status

end RevisionGraph.Tools
