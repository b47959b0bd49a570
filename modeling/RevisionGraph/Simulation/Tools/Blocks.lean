import RevisionGraph.Simulation.Tools.Dumping

/-!
# Tools that cut files into blocks

`dd` copies in blocks of some size, perhaps only some of them and with changes on the way; `split`
writes the blocks, or so many lines each, to files of their own.
-/

set_option autoImplicit false

namespace RevisionGraph.Tools

open RevisionGraph.System ToolM

/-! ## Copies -/

/-- What a copy in blocks is told. -/
structure BlockCopy where
  input : Option String := none
  output : Option String := none
  inputSize : Nat := 512
  outputSize : Nat := 512
  /-- blocks are written as they were read -/
  direct : Bool := false
  count : Option Nat := none
  skip : Nat := 0
  seek : Nat := 0
  conversions : List String := []
  flags : List String := []
  outputFlags : List String := []
  status : String := ""

namespace BlockCopy

/-- The conversions that can be asked for. -/
def knownConversions : List String :=
  ["ascii", "ebcdic", "ibm", "block", "unblock", "lcase", "ucase", "sparse", "swab", "sync", "excl",
    "nocreat", "notrunc", "noerror", "fdatasync", "fsync"]

/-- The flags that can be asked for. -/
def knownFlags : List String :=
  ["append", "direct", "directory", "dsync", "sync", "fullblock", "nonblock", "noatime", "nocache",
    "noctty", "nofollow", "count_bytes", "skip_bytes", "seek_bytes"]

/-- A number of bytes, perhaps a product. -/
def sizeOf? (text : String) : Option Nat :=
  (Text.split 'x' text).foldl (fun product factor ↦ do
    let f := match factor.toList.reverse with
      | 'c' :: rest => countOf? (String.ofList rest.reverse)
      | 'w' :: rest => (countOf? (String.ofList rest.reverse)).map (2 * ·)
      | _ => countOf? factor
    return (← product) * (← f)) (some 1)

/-- Reads an operand. -/
def read (c : BlockCopy) (operand : String) : ToolM BlockCopy := do
  match Text.split '=' operand with
  | [] | [_] => misuse 1 s!"unrecognized operand '{operand}'"
  | key :: values =>
    let value := Text.join '=' values
    let number : ToolM Nat := do
      match sizeOf? value with
      | some n => return n
      | none => abort 1 s!"invalid number: '{value}'"
    let positive : ToolM Nat := do
      let n ← number
      if n = 0 then abort 1 s!"invalid number: '{value}'"
      return n
    let listed (known : List String) (what : String) : ToolM (List String) := do
      let words := Text.split ',' value
      match words.find? (!known.contains ·) with
      | some word => misuse 1 s!"invalid {what}: ‘{word}’"
      | none => return words
    match key with
    | "if" => return { c with input := some value }
    | "of" => return { c with output := some value }
    | "bs" =>
      let n ← positive
      return { c with inputSize := n, outputSize := n, direct := true }
    | "ibs" => return { c with inputSize := ← positive }
    | "obs" => return { c with outputSize := ← positive }
    | "cbs" =>
      let _ ← positive
      return c
    | "count" => return { c with count := some (← number) }
    | "skip" | "iseek" => return { c with skip := ← number }
    | "seek" | "oseek" => return { c with seek := ← number }
    | "conv" => return { c with conversions := c.conversions ++ (← listed knownConversions "conversion") }
    | "iflag" => return { c with flags := c.flags ++ (← listed knownFlags "input flag") }
    | "oflag" => return { c with outputFlags := c.outputFlags ++ (← listed knownFlags "output flag") }
    | "status" =>
      if !(["none", "noxfer", "progress"].contains value) then
        misuse 1 s!"invalid status level: ‘{value}’"
      return { c with status := value }
    | _ => misuse 1 s!"unrecognized operand '{operand}'"

/-- The conversion is asked for. -/
def has (c : BlockCopy) (conversion : String) : Bool := c.conversions.contains conversion

/-- Bytes with each pair of them swapped. -/
def swapped : Text.Bytes → Text.Bytes
  | a :: b :: rest => b :: a :: swapped rest
  | rest => rest

/-- A block as it is written. -/
def convert (c : BlockCopy) (bytes : Text.Bytes) : Text.Bytes :=
  let bytes := if c.has "sync" then
    bytes ++ List.replicate (c.inputSize - bytes.length) 0 else bytes
  let bytes := if c.has "swab" then swapped bytes else bytes
  let mapped (f : Char → Char) : Text.Bytes :=
    bytes.map fun b ↦ if b < 128 then UInt8.ofNat (f (Char.ofNat b.toNat)).toNat else b
  if c.has "ucase" then mapped Char.toUpper
  else if c.has "lcase" then mapped Char.toLower
  else bytes

/-- The number of bytes that is read before blocks end. -/
def bytesWanted (c : BlockCopy) : Option Nat :=
  if c.flags.contains "count_bytes" then c.count else c.count.map (· * c.inputSize)

/-- A size with a letter for its unit. -/
def scaled (unit : Nat) (letters : List String) (n : Nat) : String :=
  let rec climb : List String → Nat → Nat → String
    | [], _, _ => toString n
    | letter :: more, divisor, bound =>
      if n < bound * unit || more.isEmpty then
        let tenths := (10 * n + divisor - 1) / divisor
        if tenths < 100 then s!"{tenths / 10}.{tenths % 10} {letter}"
        else s!"{(n + divisor - 1) / divisor} {letter}"
      else climb more (divisor * unit) (bound * unit)
  climb letters unit unit

/-- How much was copied. -/
def summary (bytes : Nat) : String :=
  let sizes := if bytes < 1000 then ""
    else
      let decimal := scaled 1000 ["kB", "MB", "GB"] bytes
      let binary := scaled 1024 ["KiB", "MiB", "GiB"] bytes
      if bytes < 1024 then s!" ({decimal})" else s!" ({decimal}, {binary})"
  let rate := scaled 1000 ["kB", "MB", "GB"] (bytes * 10000)
  let unit := if bytes = 1 then "byte" else "bytes"
  s!"{bytes} {unit}{sizes} copied, 0.0001 s, {rate}/s"

end BlockCopy

/-- What a copy in blocks has read and written. -/
structure BlockTally where
  whole : Nat := 0
  partly : Nat := 0
  outWhole : Nat := 0
  outPartly : Nat := 0
  bytes : Nat := 0
  /-- bytes for a block that is not yet full -/
  waiting : Text.Bytes := []
  failed : Bool := false

namespace BlockTally

/-- Writes one block. -/
def writeBlock (c : BlockCopy) (out : Nat) (t : BlockTally) (bytes : Text.Bytes) :
    ToolM BlockTally := do
  match ← ask (.write out bytes) with
  | .ok () =>
    let t := { t with bytes := t.bytes + bytes.length }
    if bytes.length = c.outputSize then return { t with outWhole := t.outWhole + 1 }
    return { t with outPartly := t.outPartly + 1 }
  | .error cause =>
    let name := (c.output.map fun o ↦ s!"'{o}'").getD "'standard output'"
    complain s!"error writing {name}: {reason cause}"
    return { t with failed := true }

/-- Takes a block that was read. -/
def take (c : BlockCopy) (out : Nat) (t : BlockTally) (bytes : Text.Bytes) : ToolM BlockTally := do
  let t := if bytes.length = c.inputSize then { t with whole := t.whole + 1 }
    else { t with partly := t.partly + 1 }
  let bytes := c.convert bytes
  if c.direct && c.conversions.all (["notrunc", "sync", "noerror", "fsync", "fdatasync"].contains ·) then
    writeBlock c out t bytes
  else
    let all := t.waiting ++ bytes
    let full := all.length / c.outputSize * c.outputSize
    let t ← (Text.Digest.pieces c.outputSize (all.take full)).foldlM (writeBlock c out) t
    return { t with waiting := all.drop full }

end BlockTally

/-- Copies blocks. -/
def dd : Tool := do
  let operands := (← get).call.arguments.filter (· != "--")
  let c ← operands.foldlM BlockCopy.read {}
  let inputName := c.input.getD "standard input"
  let openOr (path : String) (how : Opening) : ToolM Nat := do
    match ← ask (.openFile path how) with
    | .ok fd => return fd
    | .error cause => abort 1 s!"failed to open '{path}': {reason cause}"
  let fd ← match c.input with
    | some path => openOr path .toRead
    | none => pure 0
  let start := if c.outputFlags.contains "seek_bytes" then c.seek else c.seek * c.outputSize
  let out ← match c.output with
    | some path => do
      let how : Opening := {
        access := .writing, create := !c.has "nocreat", exclusive := c.has "excl"
        truncate := !c.has "notrunc" && start = 0, append := c.outputFlags.contains "append" }
      let fd ← openOr path how
      if start != 0 && !c.has "notrunc" then
        let _ ← ask (.resize path start)
      pure fd
    | none => pure 1
  if start != 0 then
    match ← ask (.seek out .current start) with
    | .ok _ => pure ()
    | .error _ =>
      let _ ← ask (.write out (List.replicate start 0))
  -- bytes that are passed over
  let skip := if c.flags.contains "skip_bytes" then c.skip else c.skip * c.inputSize
  if skip != 0 then
    let size : Nat ← match ← ask (.lookAt fd) with
      | .ok l => pure (if l.kind == .file then l.size else skip)
      | .error _ => pure skip
    match ← ask (.seek fd .current skip) with
    | .ok position =>
      if size < position then complain s!"'{inputName}': cannot skip to specified offset"
    | .error _ =>
      let _ ← iterate skip fun left ↦ do
        if left = 0 then return (left, false)
        match ← ask (.read fd (min left c.inputSize) true) with
        | .ok (b :: bytes) => return (left - (b :: bytes).length, true)
        | _ => return (left, false)
  let wanted := c.bytesWanted
  let blocks := if c.flags.contains "count_bytes" then none else c.count
  let full := c.flags.contains "fullblock"
  let (t, _) ← iterate (({} : BlockTally), 0) fun (t, read) ↦ do
    let left := (wanted.map (· - read)).getD c.inputSize
    if left = 0 || blocks.any (· ≤ t.whole + t.partly) || t.failed then return ((t, read), false)
    let size := min left c.inputSize
    let got ← iterate (([] : Text.Bytes), (none : Option FileCause)) fun (bytes, fault) ↦ do
      match ← ask (.read fd (size - bytes.length) true) with
      | .ok [] => return ((bytes, fault), false)
      | .ok more =>
        let bytes := bytes ++ more
        return ((bytes, fault), full && bytes.length < size)
      | .error cause => return ((bytes, some cause), false)
    match got with
    | (_, some cause) =>
      complain s!"error reading '{inputName}': {reason cause}"
      return (({ t with failed := true }, read), false)
    | ([], none) => return ((t, read), false)
    | (bytes, none) => return ((← t.take c out bytes, read + bytes.length), true)
  let t ← if t.waiting.isEmpty then pure t else t.writeBlock c out t.waiting
  if c.status ≠ "none" then
    tell s!"{t.whole}+{t.partly} records in\n{t.outWhole}+{t.outPartly} records out\n"
    if c.status ≠ "noxfer" then tell (BlockCopy.summary t.bytes ++ "\n")
  return if t.failed then 1 else 0

/-! ## Parts -/

/-- The letters of the end of a name, by its place in order. -/
def partLetters (symbols : List Char) : Nat → Nat → List Char
  | 0, _ => []
  | width + 1, n =>
    partLetters symbols width (n / symbols.length) ++ [symbols.getD (n % symbols.length) 'a']

/-- Lines in groups of so many. -/
def lineGroups (count : Nat) (bytes : Text.Bytes) : List Text.Bytes :=
  (Text.Digest.pieces count (closedLines bytes)).map List.flatten

/-- Lines in groups of at most so many bytes; a line that is longer is cut.  The bound is on the
lines and their parts. -/
def fittingGroups (size : Nat) : Nat → Text.Bytes → List Text.Bytes → List Text.Bytes
  | 0, _, _ => []
  | _ + 1, group, [] => if group.isEmpty then [] else [group]
  | n + 1, group, line :: rest =>
    if group.length + line.length ≤ size then fittingGroups size n (group ++ line) rest
    else if !group.isEmpty then group :: fittingGroups size n [] (line :: rest)
    else line.take size :: fittingGroups size n [] (line.drop size :: rest)

/-- So many parts of about the same size. -/
def evenParts (count : Nat) (bytes : Text.Bytes) : List Text.Bytes :=
  let size := bytes.length / count
  let larger := bytes.length % count
  let start (k : Nat) : Nat := k * size + min k larger
  (List.range count).map fun k ↦ (bytes.drop (start k)).take (start (k + 1) - start k)

/-- Splits a file into several. -/
def split : Tool := do
  let table := OptionTable.make "a:b:C:del:n:t:ux" [("suffix-length", 'a'), ("bytes", 'b'),
    ("line-bytes", 'C'), ("elide-empty-files", 'e'), ("lines", 'l'), ("number", 'n')] true
  let table := { table with names := table.names ++ [("numeric-suffixes", 'd', .perhaps),
    ("hex-suffixes", 'x', .perhaps), ("additional-suffix", 'A', .always), ("verbose", 'V', .never)] }
  -- a number behind a hyphen is a number of lines
  let arguments := (← get).call.arguments.map fun argument ↦
    match argument.toList with
    | '-' :: c :: rest =>
      if (c :: rest).all Char.isDigit then "-l" ++ String.ofList (c :: rest) else argument
    | _ => argument
  modify fun d ↦ { d with call := { d.call with words := d.call.name :: arguments } }
  let (given, operands) ← options table 1
  if 2 < operands.length then misuse 1 s!"extra operand {quotedOf operands 2}"
  let sizeOf (letter : Char) (what : String) : ToolM (Option Nat) := do
    match given.value? letter with
    | none => return none
    | some text =>
      match countOf? text with
      | some 0 | none => abort 1 s!"invalid number of {what}: ‘{text}’"
      | some n => return some n
  let lines ← sizeOf 'l' "lines"
  let size ← sizeOf 'b' "bytes"
  let lineSize ← sizeOf 'C' "lines"
  let count ← sizeOf 'n' "chunks"
  let operand := operands.headD "-"
  let beginning := operands.getD 1 "x"
  match ← withInput operand fun fd ↦ do return .ok (← readAll fd) with
  | .error cause => abort 1 s!"cannot open '{operand}' for reading: {reason cause}"
  | .ok (.error cause) => abort 1 s!"{operand}: {reason cause}"
  | .ok (.ok bytes) =>
    let parts := match size, lineSize, count with
      | some n, _, _ => Text.Digest.pieces n bytes
      | none, some n, _ => fittingGroups n (2 * bytes.length + 1) [] (closedLines bytes)
      | none, none, some n => (evenParts n bytes).filter fun p ↦ !(given.has 'e' && p.isEmpty)
      | none, none, none => lineGroups (lines.getD 1000) bytes
    let symbols := match given.lastOf ['d', 'x'] with
      | some 'd' => "0123456789".toList
      | some _ => "0123456789abcdef".toList
      | none => "abcdefghijklmnopqrstuvwxyz".toList
    let first := Text.readDecimal ((given.value? 'd').getD "").toList
    let width := match (given.value? 'a').map fun t ↦ Text.readDecimal t.toList with
      | some 0 | none => 2
      | some n => n
    let room := symbols.length ^ width
    let good ← parts.zipIdx.foldlM (fun good (part, k) ↦ do
      if !good then return false
      if room ≤ k + first then
        complain "output file suffixes exhausted"
        return false
      let path := beginning ++ String.ofList (partLetters symbols width (k + first)) ++
        (given.value? 'A').getD ""
      if given.has 'V' then printLine s!"creating file '{path}'"
      match ← writeFile path .anew part with
      | .ok () => return true
      | .error cause =>
        complain s!"{path}: {reason cause}"
        return false) true
    return if good then 0 else 1

end RevisionGraph.Tools
