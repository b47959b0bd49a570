import RevisionGraph.Simulation.Tools.Options

/-!
# Tools that show files

`cat` and `tac` show files from the start and from the end, `head` and `tail` parts of them; `nl`
numbers lines, `rev` turns them round, `tee` writes what it reads into several files, and `wc`
counts.
-/

set_option autoImplicit false

namespace RevisionGraph.Tools

open RevisionGraph.System ToolM

/-! ## Whole files -/

/-- How bytes are shown. -/
structure ByteStyle where
  numbered : Bool := false
  onlyFilled : Bool := false
  squeezed : Bool := false
  ends : Bool := false
  tabs : Bool := false
  marked : Bool := false

/-- Where in its input the showing is. -/
structure ByteCursor where
  line : Nat := 0
  atStart : Bool := true
  /-- how many empty lines there were without a break -/
  blank : Nat := 0

namespace ByteStyle

/-- Bytes are shown as they are. -/
def isPlain (s : ByteStyle) : Bool :=
  !(s.numbered || s.onlyFilled || s.squeezed || s.ends || s.tabs || s.marked)

/-- A byte that is not a line end, with marks for what cannot be seen. -/
def mark (s : ByteStyle) (b : UInt8) : Text.Bytes :=
  if b = 9 then (if s.tabs then [94, 73] else [9])
  else if !s.marked then [b]
  else
    let low := b &&& 0x7f
    (if 0x80 ≤ b then [77, 45] else []) ++
      if low < 32 then [94, low + 64] else if low = 127 then [94, 63] else [low]

/-- Shows a byte. -/
def write (s : ByteStyle) (c : ByteCursor) (b : UInt8) : ByteCursor × Text.Bytes :=
  let empty := c.atStart && b = 10
  if empty && s.squeezed && 0 < c.blank then (c, [])
  else
    let counts := c.atStart && (if s.onlyFilled then !empty else s.numbered)
    let line := if counts then c.line + 1 else c.line
    let number := if counts then Text.Octets.toBytes (padded 6 line ++ "\t") else []
    let body := if b = 10 then (if s.ends then [36, 10] else [10]) else s.mark b
    ({ line, atStart := b = 10, blank := if empty then c.blank + 1 else 0 }, number ++ body)

/-- Shows bytes. -/
def writeAll (s : ByteStyle) (c : ByteCursor) (bytes : Text.Bytes) : ByteCursor × Text.Bytes :=
  let (c, shown) := bytes.foldl (fun (c, shown) b ↦
    let (c, more) := s.write c b
    (c, more.reverse ++ shown)) (c, ([] : Text.Bytes))
  (c, shown.reverse)

end ByteStyle

/-- Shows files. -/
def cat : Tool := do
  let table := OptionTable.make "AbeEnstTuv" [("show-all", 'A'), ("number-nonblank", 'b'),
    ("show-ends", 'E'), ("number", 'n'), ("squeeze-blank", 's'), ("show-tabs", 'T'),
    ("show-nonprinting", 'v')] true
  let (given, operands) ← options table 1
  let any (letters : String) : Bool := letters.toList.any given.has
  let style : ByteStyle := {
    numbered := any "n", onlyFilled := any "b", squeezed := any "s"
    ends := any "EAe", tabs := any "TAt", marked := any "vAet" }
  let output ← ask (.lookAt 1)
  let show_ (c : ByteCursor) (operand : String) : ToolM (ByteCursor × Bool) := do
    let refuse (why : String) : ToolM (ByteCursor × Bool) := do
      complain s!"{operand}: {why}"
      return (c, false)
    let result ← withInput operand fun fd ↦ do
      let own ← match output, ← ask (.lookAt fd) with
        | .ok o, .ok i => pure (o.kind == .file && i.number == o.number && i.kind == .file &&
            0 < i.size)
        | _, _ => pure false
      if own then return .ok none
      let shown ← eachChunk fd c fun c bytes ↦ do
        if style.isPlain then
          emit bytes
          flush
          return (c, true)
        let (c, shown) := style.writeAll c bytes
        emit shown
        flush
        return (c, true)
      return shown.map some
    match result with
    | .ok (some c) => return (c, true)
    | .ok none => refuse "input file is output file"
    | .error cause => refuse (reason cause)
  let (_, status) ← (if operands.isEmpty then ["-"] else operands).foldlM
    (fun (c, status) operand ↦ do
      let (c, good) ← show_ c operand
      return (c, if good then status else 1)) (({} : ByteCursor), 0)
  return status

/-- What opening an operand for reading fails with. -/
def cannotOpen (operand : String) (cause : FileCause) : ToolM Unit :=
  if cause = .isADirectory then complain s!"error reading '{operand}': {reason cause}"
  else complain s!"cannot open '{operand}' for reading: {reason cause}"

/-- Lines, each with the end that it has. -/
def closedLines (bytes : Text.Bytes) : List Text.Bytes :=
  let (lines, left) := cutLines 10 [] bytes
  lines.map (· ++ [10]) ++ if left.isEmpty then [] else [left]

/-- Shows lines from the last to the first. -/
def tac : Tool := do
  let (_, operands) ← options (OptionTable.make "brs:" [] true) 1
  onEach (if operands.isEmpty then ["-"] else operands) fun operand ↦ do
    match ← withInput operand readAll with
    | .ok bytes =>
      emit (closedLines bytes).reverse.flatten
      return true
    | .error cause =>
      if cause = .isADirectory then complain s!"{operand}: read error: {reason .invalid}"
      else complain s!"failed to open '{operand}' for reading: {reason cause}"
      return false

/-! ## Parts -/

/-- A count with a letter for its unit behind it. -/
def countOf? (s : String) : Option Nat :=
  let digits := s.toList.takeWhile Char.isDigit
  let unit : Option Nat := match String.ofList (s.toList.drop digits.length) with
    | "" => some 1
    | "b" => some 512
    | "kB" | "KB" => some 1000
    | "k" | "K" | "KiB" => some 1024
    | "MB" => some (10 ^ 6)
    | "M" | "m" | "MiB" => some (2 ^ 20)
    | "GB" => some (10 ^ 9)
    | "G" | "GiB" => some (2 ^ 30)
    | _ => none
  if digits.isEmpty then none else unit.map fun u ↦ u * Text.readDecimal digits

/-- Which part of its input a tool shows. -/
structure Part where
  inBytes : Bool := false
  count : Nat := 10
  /-- the count is about what is not shown -/
  turned : Bool := false

/-- The part that the options ask for; one sign before a count turns its meaning round, the other
has none. -/
def Part.ofOptions (turning idle : Char) (given : Given) : ToolM Part := do
  let chosen := given.filter fun o ↦ o.1 = 'n' || o.1 = 'c'
  match chosen.getLast? with
  | some (letter, some value) =>
    let first := value.toList.headD ' '
    let turned := first == turning
    let body := if turned || first == idle then String.ofList (value.toList.drop 1) else value
    match countOf? body with
    | some count => return { inBytes := letter == 'c', count, turned }
    | none =>
      let unit := if letter == 'c' then "bytes" else "lines"
      abort 1 s!"invalid number of {unit}: ‘{body}’"
  | _ => return {}

/-- Runs a step on each operand, with a title before it if there are several. -/
def withTitles (given : Given) (operands : List String) (step : Nat → ToolM (Attempt Unit)) :
    ToolM Nat := do
  let operands := if operands.isEmpty then ["-"] else operands
  let titled := !given.has 'q' && (given.has 'v' || 1 < operands.length)
  let (_, status) ← operands.foldlM (fun (first, status) operand ↦ do
    let title := if operand = "-" then "standard input" else operand
    let begin_ : ToolM Unit := do
      let gap := if first then "" else "\n"
      if titled then print s!"{gap}==> {title} <==\n"
    let opened : Attempt Nat ← if operand = "-" then pure (.ok 0) else ask (.openFile operand .toRead)
    match opened with
    | .error cause =>
      cannotOpen operand cause
      return (first, 1)
    | .ok fd =>
      begin_
      let result ← step fd
      flush
      if operand ≠ "-" then
        let _ ← ask (.close fd)
      match result with
      | .ok () => return (false, status)
      | .error cause =>
        complain s!"error reading '{title}': {reason cause}"
        return (false, 1)) (true, 0)
  return status

/-- The names of the options of `head` and `tail`. -/
def partNames : List (String × Char) :=
  [("bytes", 'c'), ("lines", 'n'), ("quiet", 'q'), ("silent", 'q'), ("verbose", 'v'),
    ("zero-terminated", 'z'), ("follow", 'f')]

/-- Shows the start of files. -/
def head : Tool := do
  let arguments := (← get).call.arguments
  -- a number behind a hyphen is a count
  let arguments := match arguments with
    | first :: rest => match first.toList with
      | '-' :: c :: more =>
        if c.isDigit && (c :: more).all Char.isDigit then
          "-n" :: String.ofList (c :: more) :: rest
        else arguments
      | _ => arguments
    | [] => []
  modify fun d ↦ { d with call := { d.call with words := d.call.name :: arguments } }
  let (given, operands) ← options (OptionTable.make "c:n:qvz" partNames true) 1
  let part ← Part.ofOptions '-' '+' given
  let ending : UInt8 := if given.has 'z' then 0 else 10
  withTitles given operands fun fd ↦ do
    if part.turned then
      let all ← readAll fd
      match all with
      | .error cause => return .error cause
      | .ok bytes =>
        if part.inBytes then emit (bytes.take (bytes.length - part.count))
        else
          let lines := closedLines bytes
          emit (lines.take (lines.length - part.count)).flatten
        return .ok ()
    else if part.inBytes then
      let rest ← iterate (part.count, (none : Option FileCause)) fun (left, fault) ↦ do
        if left = 0 then return ((left, fault), false)
        match ← ask (.read fd (min left 8192) true) with
        | .ok [] => return ((left, fault), false)
        | .ok bytes =>
          emit bytes
          return ((left - bytes.length, fault), true)
        | .error cause => return ((left, some cause), false)
      return match rest.2 with
        | some cause => .error cause
        | none => .ok ()
    else if part.count = 0 then return .ok ()
    else
      let shown ← eachLineEnding ending fd part.count fun left line ↦ do
        emit (Text.Octets.toBytes line.text ++ if line.closed then [ending] else [])
        return (left - 1, 1 < left)
      return shown.map fun _ ↦ ()

/-- Shows the end of files. -/
def tail : Tool := do
  let arguments := (← get).call.arguments
  if let first :: _ :: _ :: _ := arguments then
    if let '-' :: c :: _ := first.toList then
      if c.isDigit then abort 1 s!"option used in invalid context -- {c}"
  let arguments := match arguments with
    | first :: rest => match first.toList with
      | sign :: c :: more =>
        let digits := (c :: more).takeWhile Char.isDigit
        let unit := more.drop (digits.length - 1)
        if (sign = '-' || sign = '+') && c.isDigit && ["", "l", "c"].contains (String.ofList unit)
            && (sign = '-' || rest.length ≤ 1) then
          (if unit = ['c'] then "-c" else "-n") :: String.ofList (sign :: digits) :: rest
        else arguments
      | _ => arguments
    | [] => []
  modify fun d ↦ { d with call := { d.call with words := d.call.name :: arguments } }
  let (given, operands) ← options (OptionTable.make "c:n:qvzfF" partNames true) 1
  let part ← Part.ofOptions '+' '-' given
  let status ← withTitles given operands fun fd ↦ do
    match ← readAll fd with
    | .error cause => return .error cause
    | .ok bytes =>
      let cut {α : Type} (items : List α) : List α :=
        items.drop (if part.turned then part.count - 1 else items.length - part.count)
      emit (if part.inBytes then cut bytes
        else if given.has 'z' then
          let (lines, left) := cutLines 0 [] bytes
          (cut (lines.map (· ++ [0]) ++ if left.isEmpty then [] else [left])).flatten
        else (cut (closedLines bytes)).flatten)
      return .ok ()
  if given.has 'f' || given.has 'F' then
    whileTrue do
      ask (.pause 1000000)
      return true
  return status

/-! ## Lines -/

/-- Numbers lines. -/
def nl : Tool := do
  let table := OptionTable.make "b:i:n:s:v:w:" [("body-numbering", 'b'), ("line-increment", 'i'),
    ("number-format", 'n'), ("number-separator", 's'), ("starting-line-number", 'v'),
    ("number-width", 'w')] true
  let (given, operands) ← options table 1
  let numberOr (letter : Char) (usual : Nat) : Nat :=
    ((given.value? letter).bind countOf?).getD usual
  let width := numberOr 'w' 6
  let separator := (given.value? 's').getD "\t"
  let style := (given.value? 'b').getD "t"
  let layout := (given.value? 'n').getD "rn"
  let shown (n : Nat) : String :=
    let digits := toString n
    if layout = "ln" then digits.pushn ' ' (width - digits.length)
    else "".pushn (if layout = "rz" then '0' else ' ') (width - digits.length) ++ digits
  let operands := if operands.isEmpty then ["-"] else operands
  let (_, status) ← operands.foldlM (fun (n, status) operand ↦ do
    let result ← withInput operand fun fd ↦ eachLine fd n fun n line ↦ do
      if style = "a" || (style = "t" && !line.text.isEmpty) then
        printLine (shown n ++ separator ++ line.text)
        return (n + numberOr 'i' 1, true)
      printLine ("".pushn ' ' (width + separator.length) ++ line.text)
      return (n, true)
    match result with
    | .ok n => return (n, status)
    | .error cause =>
      complain s!"{operand}: {reason cause}"
      return (n, 1)) (numberOr 'v' 1, 0)
  return status

/-- Shows lines from right to left. -/
def rev : Tool := do
  let (_, operands) ← options (OptionTable.make "" [] true) 1
  onInputs operands fun _ fd ↦ eachLine fd () fun _ line ↦ do
    let name := Text.Octets.toName line.text
    print (Text.Octets.ofName (String.ofList name.toList.reverse) ++ if line.closed then "\n" else "")
    return ((), true)

/-- Copies its input to files. -/
def tee : Tool := do
  let (given, operands) ← options (OptionTable.make "aip"
    [("append", 'a'), ("ignore-interrupts", 'i')] true) 1
  let append := given.has 'a'
  let how : Opening := { Opening.anew with truncate := !append, append }
  let opened ← operands.filterMapM fun operand ↦ do
    match ← ask (.openFile operand how) with
    | .ok fd => return some (operand, fd)
    | .error cause =>
      complain s!"{operand}: {reason cause}"
      return none
  let result ← eachChunk 0 true fun good bytes ↦ do
    emit bytes
    flush
    let fine ← opened.mapM fun (operand, fd) ↦ do
      match ← ask (.write fd bytes) with
      | .ok () => return true
      | .error cause =>
        complain s!"{operand}: {reason cause}"
        return false
    return (good && fine.all (·), true)
  let good := match result with
    | .ok good => good
    | .error _ => false
  return if good && opened.length = operands.length then 0 else 1

/-! ## Counts -/

/-- What was counted. -/
structure Counts where
  lines : Nat := 0
  words : Nat := 0
  characters : Nat := 0
  bytes : Nat := 0
  /-- the width of the widest line -/
  widest : Nat := 0
  /-- the width of the line so far -/
  width : Nat := 0
  inWord : Bool := false

namespace Counts

/-- Counts a byte. -/
def count (c : Counts) (b : UInt8) : Counts :=
  let starts := b &&& 0xc0 != 0x80
  let c := { c with bytes := c.bytes + 1, characters := c.characters + if starts then 1 else 0 }
  if b = 10 || b = 12 || b = 13 then
    { c with
      lines := c.lines + if b = 10 then 1 else 0
      widest := max c.widest c.width, width := 0, inWord := false }
  else if b = 9 then { c with width := c.width / 8 * 8 + 8, inWord := false }
  else if b = 32 then { c with width := c.width + 1, inWord := false }
  else if b = 11 then { c with inWord := false }
  else if b < 32 || b = 127 then c
  else
    { c with
      words := c.words + if c.inWord then 0 else 1
      width := c.width + if starts then 1 else 0
      inWord := true }

/-- Counts of two files together. -/
def sum (a b : Counts) : Counts where
  lines := a.lines + b.lines
  words := a.words + b.words
  characters := a.characters + b.characters
  bytes := a.bytes + b.bytes
  widest := max a.widest (max b.widest b.width)

/-- The counts that are asked for. -/
def shown (c : Counts) (asked : Char → Bool) : List Nat :=
  [('l', c.lines), ('w', c.words), ('m', c.characters), ('c', c.bytes),
    ('L', max c.widest c.width)].filterMap fun (letter, n) ↦ if asked letter then some n else none

end Counts

/-- The width of the columns of counts. -/
def columnWidth (operands : List String) (columns : Nat) : ToolM Nat := do
  let operands := if operands.isEmpty then ["-"] else operands
  if operands.length = 1 && columns = 1 then return 1
  let looks ← operands.mapM fun operand ↦
    if operand = "-" then ask (.lookAt 0) else look operand true
  let found := looks.filterMap Except.toOption
  let sizes := found.map fun l ↦ if l.kind == .file then l.size else 0
  let least := if found.all fun l ↦ l.kind == .file then 1 else 7
  return max least (toString sizes.sum).length

/-- Counts lines, words and bytes. -/
def wc : Tool := do
  let table := OptionTable.make "clLmw"
    [("bytes", 'c'), ("chars", 'm'), ("lines", 'l'), ("words", 'w'), ("max-line-length", 'L')] true
  let (given, operands) ← options table 1
  let asked (letter : Char) : Bool :=
    if given.isEmpty then ['l', 'w', 'c'].contains letter else given.has letter
  let columns := ("lwmcL".toList.filter asked).length
  let width ← columnWidth operands columns
  let show_ (c : Counts) (operand : Option String) : ToolM Unit := do
    let numbers := " ".intercalate ((c.shown asked).map (padded width))
    printLine (numbers ++ ((operand.map (" " ++ ·)).getD ""))
  if operands.isEmpty then
    match ← eachChunk 0 ({} : Counts) fun c bytes ↦ return (bytes.foldl Counts.count c, true) with
    | .ok c =>
      show_ c none
      return 0
    | .error cause =>
      complain s!"-: {reason cause}"
      return 1
  let (total, status) ← operands.foldlM (fun (total, status) operand ↦ do
    match ← withInput operand fun fd ↦
        eachChunk fd ({} : Counts) fun c bytes ↦ return (bytes.foldl Counts.count c, true) with
    | .ok c =>
      show_ c (some operand)
      return (Counts.sum total c, status)
    | .error cause =>
      complain s!"{operand}: {reason cause}"
      if cause = .isADirectory then show_ {} (some operand)
      return (total, 1)) (({} : Counts), 0)
  if 1 < operands.length then show_ total (some "total")
  return status

end RevisionGraph.Tools
