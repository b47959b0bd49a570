import RevisionGraph.Simulation.Text.Digest
import RevisionGraph.Simulation.Tools.Options
import RevisionGraph.Simulation.Tools.Reading

/-!
# Tools that show bytes in other ways

`od` shows bytes as numbers or characters, `cksum` and the tools named for digests show digests of
files or compare files with digests, and `base64` and `base32` go between bytes and plain
characters.
-/

set_option autoImplicit false

namespace RevisionGraph.Tools

open RevisionGraph.System ToolM

/-! ## Items of a dump -/

/-- The text of a number in some base, at least so wide. -/
def digitsOf (base width n : Nat) : String :=
  let digits := Nat.toDigits base n
  "".pushn '0' (width - digits.length) ++ String.ofList digits

/-- A text with blanks before it up to a width. -/
def rightAligned (width : Nat) (s : String) : String := "".pushn ' ' (width - s.length) ++ s

/-- A text with blanks behind it up to a width. -/
def leftAligned (width : Nat) (s : String) : String := s.pushn ' ' (width - s.length)

/-- How bytes are shown. -/
inductive ItemKind where
  /-- names of characters, the highest bit left out -/
  | named
  /-- characters, with escapes -/
  | character
  | signed
  | unsigned (base : Nat)
  deriving DecidableEq

/-- How the items of a line are shown. -/
structure ItemStyle where
  kind : ItemKind
  /-- bytes of an item -/
  size : Nat
  /-- what can be printed stands at the end of the line -/
  trailed : Bool := false

namespace ItemStyle

/-- The names of control characters. -/
def controlNames : List String :=
  ["nul", "soh", "stx", "etx", "eot", "enq", "ack", "bel", "bs", "ht", "nl", "vt", "ff", "cr", "so",
    "si", "dle", "dc1", "dc2", "dc3", "dc4", "nak", "syn", "etb", "can", "em", "sub", "esc", "fs",
    "gs", "rs", "us", "sp"]

/-- The byte is a character that can be printed. -/
def isPrintable (b : UInt8) : Bool := 32 ≤ b && b < 127

/-- How a byte is shown as a character. -/
def character (b : UInt8) : String :=
  if b = 0 then "\\0"
  else if 7 ≤ b && b ≤ 13 then
    String.ofList ['\\', "abtnvfr".toList.getD (b.toNat - 7) ' ']
  else if isPrintable b then String.ofList [Char.ofNat b.toNat]
  else digitsOf 8 3 b.toNat

/-- How wide an item is. -/
def width (s : ItemStyle) : Nat :=
  match s.kind with
  | .named | .character => 3
  | .signed => [0, 4, 6, 8, 11, 13, 16, 18, 20].getD s.size 20
  | .unsigned 8 => [0, 3, 6, 8, 11, 14, 16, 19, 22].getD s.size 22
  | .unsigned 16 => 2 * s.size
  | .unsigned _ => [0, 3, 5, 8, 10, 13, 15, 17, 20].getD s.size 20

/-- The text of an item. -/
def text (s : ItemStyle) (big : Bool) (bytes : Text.Bytes) : String :=
  let n := Text.Digest.ofBigEndian (if big then bytes else bytes.reverse)
  match s.kind with
  | .named =>
    let low := n % 128
    if low = 127 then "del" else controlNames.getD low (String.ofList [Char.ofNat low])
  | .character => character (bytes.headD 0)
  | .signed =>
    let range := 256 ^ s.size
    if n < range / 2 then toString n else s!"-{range - n}"
  | .unsigned 10 => toString n
  | .unsigned base => digitsOf base s.width n

end ItemStyle

/-- How bytes are dumped. -/
structure DumpStyle where
  items : List ItemStyle := []
  /-- the base of the positions before the lines, if there are any -/
  positions : Option Nat := some 8
  /-- bytes of a line -/
  block : Nat := 16
  /-- lines that say the same again are shown, too -/
  complete : Bool := false
  big : Bool := false

namespace DumpStyle

/-- How a position is shown. -/
def position (d : DumpStyle) (n : Nat) : String :=
  match d.positions with
  | some base => digitsOf base (if base = 16 then 6 else 7) n
  | none => ""

/-- The items of a style in a line that may end early; `room` is the width of all lines. -/
def row (d : DumpStyle) (room : Nat) (s : ItemStyle) (bytes : Text.Bytes) : String :=
  let fields := d.block / s.size
  let items := Text.Digest.pieces s.size bytes
  let pad := room - s.width * fields
  let before (left : Nat) : Nat := pad * left / fields
  let shown := items.zipIdx.map fun (item, k) ↦
    rightAligned (before (fields - k) - before (fields - k - 1) + s.width) (s.text d.big item)
  let body := String.join shown
  if s.trailed then
    let visible := bytes.map fun b ↦ if ItemStyle.isPrintable b then Char.ofNat b.toNat else '.'
    leftAligned room body ++ "  >" ++ String.ofList visible ++ "<"
  else body

/-- The lines for a block, whose last item may be filled up. -/
def lines (d : DumpStyle) (at_ : Nat) (bytes : Text.Bytes) : String :=
  let room := (d.items.map fun s ↦ (s.width + 1) * (d.block / s.size)).foldl max 0
  let label := d.position at_
  String.join (d.items.zipIdx.map fun (s, k) ↦
    (if k = 0 then label else "".pushn ' ' label.length) ++ d.row room s bytes ++ "\n")

end DumpStyle

/-! ## Dumps -/

/-- The styles that a text of types names. -/
def itemStylesFor (whole : String) : Nat → List Char → Except String (List ItemStyle)
  | 0, _ => .ok []
  | _ + 1, [] => .ok []
  | n + 1, c :: rest => do
    let numeric (kind : ItemKind) : Except String (ItemStyle × List Char) :=
      let digits := rest.takeWhile Char.isDigit
      match rest with
      | 'C' :: rest => .ok ({ kind, size := 1 }, rest)
      | 'S' :: rest => .ok ({ kind, size := 2 }, rest)
      | 'I' :: rest => .ok ({ kind, size := 4 }, rest)
      | 'L' :: rest => .ok ({ kind, size := 8 }, rest)
      | rest =>
        if digits.isEmpty then .ok ({ kind, size := 4 }, rest)
        else
          let size := Text.readDecimal digits
          if [1, 2, 4, 8].contains size then .ok ({ kind, size }, rest.drop digits.length)
          else .error (s!"invalid type string ‘{whole}’;\n" ++
            s!"this system doesn't provide a {size}-byte integral type")
    let (style, rest) ← match c with
      | 'a' => Except.ok ({ kind := .named, size := 1 }, rest)
      | 'c' => .ok ({ kind := .character, size := 1 }, rest)
      | 'd' => numeric .signed
      | 'o' => numeric (.unsigned 8)
      | 'u' => numeric (.unsigned 10)
      | 'x' => numeric (.unsigned 16)
      | c => .error s!"invalid character '{c}' in type string ‘{whole}’"
    let (style, rest) := match rest with
      | 'z' :: rest => ({ style with trailed := true }, rest)
      | rest => (style, rest)
    return style :: (← itemStylesFor whole n rest)

/-- The styles that options with one letter stand for. -/
def itemStyleOf? (letter : Char) : Option ItemStyle :=
  match letter with
  | 'a' => some { kind := .named, size := 1 }
  | 'b' => some { kind := .unsigned 8, size := 1 }
  | 'c' => some { kind := .character, size := 1 }
  | 'd' => some { kind := .unsigned 10, size := 2 }
  | 'i' => some { kind := .signed, size := 4 }
  | 'l' => some { kind := .signed, size := 8 }
  | 'o' => some { kind := .unsigned 8, size := 2 }
  | 's' => some { kind := .signed, size := 2 }
  | 'x' => some { kind := .unsigned 16, size := 2 }
  | 'h' => some { kind := .unsigned 16, size := 2 }
  | 'D' => some { kind := .unsigned 10, size := 4 }
  | 'I' | 'L' => some { kind := .signed, size := 8 }
  | 'O' => some { kind := .unsigned 8, size := 4 }
  | 'B' => some { kind := .unsigned 8, size := 2 }
  | 'H' | 'X' => some { kind := .unsigned 16, size := 4 }
  | _ => none

/-- A number of bytes, in decimal, octal or hexadecimal, with a letter for its unit. -/
def byteCount? (s : String) : Option Nat :=
  match s.toList with
  | '0' :: x :: rest =>
    if x = 'x' || x = 'X' then
      let digits := Text.takeHex rest
      if digits.length = rest.length && !rest.isEmpty then some (Text.readHex digits) else none
    else if (x :: rest).all Char.isDigit then some (Nat.ofDigitChars 8 (x :: rest) 0)
    else countOf? s
  | _ => countOf? s

/-- Where a dump has come to. -/
structure DumpState where
  /-- bytes that are to be passed over -/
  skip : Nat
  /-- bytes that may still be shown -/
  left : Option Nat
  at_ : Nat
  waiting : Text.Bytes := []
  previous : Option Text.Bytes := none
  /-- the last line said the same again -/
  repeated : Bool := false

namespace DumpState

/-- Shows a whole block. -/
def showBlock (d : DumpStyle) (s : DumpState) (bytes : Text.Bytes) : ToolM DumpState := do
  let after := { s with at_ := s.at_ + bytes.length, previous := some bytes }
  if !d.complete && s.previous == some bytes then
    if !s.repeated then print "*\n"
    return { after with repeated := true }
  print (d.lines s.at_ bytes)
  return { after with repeated := false }

/-- Shows what bytes fill blocks, and keeps the others. -/
def take (d : DumpStyle) (s : DumpState) (bytes : Text.Bytes) : ToolM DumpState := do
  let skipped := min s.skip bytes.length
  let bytes := bytes.drop skipped
  let bytes := match s.left with
    | some left => bytes.take left
    | none => bytes
  let all := s.waiting ++ bytes
  let whole := all.length / d.block * d.block
  let s := { s with
    skip := s.skip - skipped, left := s.left.map (· - bytes.length), waiting := all.drop whole }
  (Text.Digest.pieces d.block (all.take whole)).foldlM (showBlock d) s

/-- Shows what is left, its last item filled up. -/
def finish (d : DumpStyle) (s : DumpState) : ToolM Unit := do
  let count := s.waiting.length
  if count != 0 then
    let unit := (d.items.map ItemStyle.size).foldl Nat.lcm 1
    let size := (count + unit - 1) / unit * unit
    print (d.lines s.at_ (s.waiting ++ List.replicate (size - count) 0))
  if d.positions.isSome then printLine (d.position (s.at_ + count))

end DumpState

/-- Shows the bytes of files. -/
def od : Tool := do
  let table := OptionTable.make "A:j:N:S:t:vw::abcdilosxhDILOBHX" [("address-radix", 'A'),
    ("skip-bytes", 'j'), ("read-bytes", 'N'), ("strings", 'S'), ("format", 't'),
    ("output-duplicates", 'v'), ("width", 'w'), ("endian", 'E')] true
  let table := { table with
    names := table.names.map fun n ↦ if n.2.1 = 'E' then (n.1, 'E', .always) else n }
  let (given, operands) ← options table 1
  let count (letter : Char) : ToolM (Option Nat) := do
    match given.value? letter with
    | none => return none
    | some text =>
      match byteCount? text with
      | some n => return some n
      | none => abort 1 s!"invalid -{letter} argument '{text}'"
  let positions : Option Nat ← match given.value? 'A' with
    | none => pure (some 8)
    | some text =>
      match text.toList.head? with
      | some 'd' => pure (some 10)
      | some 'o' => pure (some 8)
      | some 'x' => pure (some 16)
      | some 'n' => pure none
      | _ => abort 1 (s!"invalid output address radix '{text}'; " ++
          "it must be one character from [doxn]")
  let items ← given.mapM fun (letter, value) ↦ do
    if letter = 't' then
      let text := value.getD ""
      match itemStylesFor text (text.length + 1) text.toList with
      | .ok styles => return styles
      | .error why => abort 1 why
    else return (itemStyleOf? letter).toList
  let items := if items.flatten.isEmpty then [{ kind := .unsigned 8, size := 2 }] else items.flatten
  let unit := (items.map ItemStyle.size).foldl Nat.lcm 1
  let block ← match given.find? (·.1 == 'w') with
    | none => pure (if unit < 16 then unit * (16 / unit) else unit)
    | some (_, value) => do
      let width := (← count 'w').getD (if value.isSome then 0 else 32)
      if width = 0 || width % unit != 0 then
        complain s!"warning: invalid width {width}; using {unit} instead"
        pure unit
      else pure width
  let style : DumpStyle := {
    items, positions, block, complete := given.has 'v'
    big := (given.value? 'E').any (·.startsWith "b") }
  let skip := (← count 'j').getD 0
  -- an operand with a sum sign is a position where it is the last of one or two
  let (operands, skip) := match operands.reverse with
    | last :: others =>
      if given.isEmpty && others.length ≤ 1 && last.startsWith "+" then
        (others, (byteCount? ("0" ++ String.ofList (last.toList.drop 1))).getD 0)
      else (operands, skip)
    | [] => (operands, skip)
  let start : DumpState := { skip, left := ← count 'N', at_ := skip }
  let (s, opened, status) ← (if operands.isEmpty then ["-"] else operands).foldlM
    (fun (s, opened, status) operand ↦ do
      if s.left = some 0 then return (s, true, status)
      let result ← withInput operand fun fd ↦ do
        let shown ← eachChunk fd s fun s bytes ↦ do
          let s ← s.take style bytes
          return (s, s.left != some 0)
        return .ok shown
      match result with
      | .ok (.ok s) => return (s, true, status)
      | .ok (.error cause) =>
        complain s!"{operand}: {reason cause}"
        return (s, true, 1)
      | .error cause =>
        complain s!"{operand}: {reason cause}"
        return (s, opened, 1)) (start, false, 0)
  if !opened then return status
  if s.skip != 0 then abort 1 "cannot skip past end of combined input"
  s.finish style
  return status

/-! ## Digests of files -/

/-- A digest with its name and its size in bytes. -/
structure DigestKind where
  label : String
  size : Nat
  digest : Text.Bytes → Text.Bytes

/-- The digests, by name. -/
def digestKinds : List (String × DigestKind) := [
  ("md5", ⟨"MD5", 16, Text.Digest.md5⟩), ("sha1", ⟨"SHA1", 20, Text.Digest.sha1⟩),
  ("sha224", ⟨"SHA224", 28, Text.Digest.sha224⟩), ("sha256", ⟨"SHA256", 32, Text.Digest.sha256⟩),
  ("sha384", ⟨"SHA384", 48, Text.Digest.sha384⟩), ("sha512", ⟨"SHA512", 64, Text.Digest.sha512⟩)]

/-- A name with escapes for what would break its line, and whether there is any. -/
def escapedName (name : String) : String × Bool :=
  let escaped := name.toList.flatMap fun c ↦
    if c = '\\' then ['\\', '\\'] else if c = '\n' then ['\\', 'n'] else if c = '\r' then ['\\', 'r']
    else [c]
  (String.ofList escaped, escaped.length != name.length)

/-- The digest and the name in a line that gives both. -/
def readDigestLine (k : DigestKind) (line : String) : Option (String × String) :=
  let hexOf (cs : List Char) : Option String :=
    if cs.length = 2 * k.size && cs.all fun c ↦ (Text.hexValue? c).isSome then
      some ((String.ofList cs).toLower) else none
  let tagged := k.label ++ " ("
  if line.startsWith tagged then
    let body := line.toList.drop tagged.length
    let sum := body.drop (body.length - 2 * k.size)
    let name := body.take (body.length - 2 * k.size)
    if name.reverse.take 4 = [' ', '=', ' ', ')'] then
      (hexOf sum).map fun h ↦ (h, String.ofList (name.take (name.length - 4)))
    else none
  else
    let cs := line.toList
    match cs.drop (2 * k.size) with
    | ' ' :: mark :: name =>
      if (mark = ' ' || mark = '*') && !name.isEmpty then
        (hexOf (cs.take (2 * k.size))).map fun h ↦ (h, String.ofList name)
      else none
    | _ => none

/-- Compares files with the digests that another file lists. -/
def checkDigests (k : DigestKind) (given : Given) (list : String) : ToolM Bool := do
  let name := if list = "-" then "'standard input'" else list
  match ← withInput list readAll with
  | .error cause =>
    complain s!"{list}: {reason cause}"
    return false
  | .ok bytes =>
    let silent := given.has 'S'
    let entries := (linesOf 10 bytes).map (readDigestLine k)
    let malformed := (entries.filter Option.isNone).length
    if malformed = entries.length then
      complain s!"{name}: no properly formatted checksum lines found"
      return false
    if given.has 'w' then
      entries.zipIdx.forM fun (entry, n) ↦ do
        if entry.isNone then
          complain s!"{name}: {n + 1}: improperly formatted {k.label} checksum line"
    let (unread, wrong, right) ← (entries.filterMap fun entry ↦ entry).foldlM (fun (unread, wrong, right) (sum, file) ↦ do
      match ← withInput file readAll with
      | .error cause =>
        if given.has 'i' && cause = .notFound then return (unread, wrong, right)
        complain s!"{file}: {reason cause}"
        if !silent then printLine s!"{file}: FAILED open or read"
        return (unread + 1, wrong, right)
      | .ok bytes =>
        let good := Text.Digest.hex (k.digest bytes) == sum
        if !silent && !(good && given.has 'q') then
          printLine (file ++ if good then ": OK" else ": FAILED")
        return if good then (unread, wrong, right + 1) else (unread, wrong + 1, right)) (0, 0, 0)
    flush
    let warn (n : Nat) (one many : String) : ToolM Unit := do
      if n != 0 && !silent then complain s!"WARNING: {n} {if n = 1 then one else many}"
    warn malformed "line is improperly formatted" "lines are improperly formatted"
    warn unread "listed file could not be read" "listed files could not be read"
    warn wrong "computed checksum did NOT match" "computed checksums did NOT match"
    let none_ := given.has 'i' && right = 0
    if none_ && !silent then complain s!"{name}: no file was verified"
    return unread = 0 && wrong = 0 && !none_ && !(given.has 'x' && malformed != 0)

/-- Shows the digests of files, or compares files with them. -/
def digestTool (k : DigestKind) : Tool := do
  let names := [("binary", 'b'), ("check", 'c'), ("tag", 'T'), ("text", 't'), ("zero", 'z'),
    ("ignore-missing", 'i'), ("quiet", 'q'), ("status", 'S'), ("strict", 'x'), ("warn", 'w')]
  let table := { OptionTable.make "bctwz" [] true with
    names := names.map fun (n, c) ↦ (n, c, Valued.never) }
  let (given, operands) ← options table 1
  let checks := given.has 'c'
  let verifying (letter : Char) (option : String) : ToolM Unit := do
    if given.has letter && !checks then
      misuse 1 s!"the --{option} option is meaningful only when verifying checksums"
  if given.has 'T' && checks then
    misuse 1 "the --tag option is meaningless when verifying checksums"
  verifying 'i' "ignore-missing"
  verifying 'S' "status"
  verifying 'w' "warn"
  verifying 'q' "quiet"
  verifying 'x' "strict"
  let operands := if operands.isEmpty then ["-"] else operands
  onEach operands fun operand ↦ do
    if checks then checkDigests k given operand
    else match ← withInput operand readAll with
      | .error cause =>
        complain s!"{operand}: {reason cause}"
        return false
      | .ok bytes =>
        let sum := Text.Digest.hex (k.digest bytes)
        let (name, escaped) := if given.has 'z' then (operand, false) else escapedName operand
        let mark := if escaped then "\\" else ""
        let ending := if given.has 'z' then "\x00" else "\n"
        if given.has 'T' then print s!"{mark}{k.label} ({name}) = {sum}{ending}"
        else
          let style := if given.has 'b' then "*" else " "
          print s!"{mark}{sum} {style}{name}{ending}"
        return true

/-- The number of blocks that bytes fill. -/
def filledBlocks (size count : Nat) : Nat := (count + size - 1) / size

/-- Shows checksums. -/
def cksum : Tool := do
  let table := { OptionTable.make "a:" [("algorithm", 'a')] true with
    names := [("algorithm", 'a', .always), ("untagged", 'u', .never), ("tag", 'T', .never)] }
  let (given, operands) ← options table 1
  let kind := (given.value? 'a').getD "crc"
  let known := digestKinds.find? (·.1 == kind)
  if known.isNone && !(["crc", "bsd", "sysv"].contains kind) then
    complain s!"invalid argument ‘{kind}’ for ‘--algorithm’"
    let all := ["bsd", "sysv", "crc"] ++ digestKinds.map Prod.fst ++ ["blake2b", "sm3"]
    tell ("Valid arguments are:\n" ++ String.join (all.map fun n ↦ s!"  - ‘{n}’\n"))
    suggestHelp
    quit 1
  onEach (if operands.isEmpty then ["-"] else operands) fun operand ↦ do
    match ← withInput operand readAll with
    | .error cause =>
      complain s!"{operand}: {reason cause}"
      return false
    | .ok bytes =>
      let label := if operands.isEmpty then "" else " " ++ operand
      match known with
      | some (_, k) =>
        let sum := Text.Digest.hex (k.digest bytes)
        printLine (if given.has 'u' then s!"{sum}  {operand}" else s!"{k.label} ({operand}) = {sum}")
      | none =>
        if kind = "bsd" then
          printLine (digitsOf 10 5 (Text.Digest.rotatedSum bytes) ++ " " ++
            padded 5 (filledBlocks 1024 bytes.length) ++ label)
        else printLine s!"{Text.Digest.crc bytes} {bytes.length}{label}"
      return true

/-- Shows short checksums. -/
def sum : Tool := do
  let (given, operands) ← options (OptionTable.make "rs" [("sysv", 's')] true) 1
  onEach (if operands.isEmpty then ["-"] else operands) fun operand ↦ do
    match ← withInput operand readAll with
    | .error cause =>
      complain s!"{operand}: {reason cause}"
      return false
    | .ok bytes =>
      let label := if operands.isEmpty then "" else " " ++ operand
      if given.lastOf ['r', 's'] = some 's' then
        let n := (bytes.map UInt8.toNat).sum
        let folded := n % 65536 + n / 65536
        printLine s!"{folded % 65536 + folded / 65536} {filledBlocks 512 bytes.length}{label}"
      else
        printLine (digitsOf 10 5 (Text.Digest.rotatedSum bytes) ++ " " ++
          padded 5 (filledBlocks 1024 bytes.length) ++ label)
      return true

/-! ## Plain characters -/

/-- An alphabet whose letters stand for a number of bits each; eight bits times `letters` fill as
many letters as a group has. -/
structure Alphabet where
  symbols : List Char
  bits : Nat
  /-- bytes and letters of a group -/
  group : Nat × Nat

namespace Alphabet

/-- The capital letters. -/
def letters : List Char := "ABCDEFGHIJKLMNOPQRSTUVWXYZ".toList

/-- Three bytes in four symbols. -/
def base64 : Alphabet where
  symbols := letters ++ letters.map Char.toLower ++ "0123456789+/".toList
  bits := 6
  group := (3, 4)

/-- Five bytes in eight symbols. -/
def base32 : Alphabet where
  symbols := letters ++ "234567".toList
  bits := 5
  group := (5, 8)

/-- The letters of a group of bytes, which is filled up with equal signs. -/
def encodeGroup (a : Alphabet) (bytes : Text.Bytes) : List Char :=
  let n := Text.Digest.ofBigEndian (bytes ++ List.replicate (a.group.1 - bytes.length) 0)
  let used := (8 * bytes.length + a.bits - 1) / a.bits
  (List.range a.group.2).map fun k ↦
    if k < used then a.symbols.getD (n / 2 ^ (a.bits * (a.group.2 - 1 - k)) % 2 ^ a.bits) '='
    else '='

/-- Bytes in symbols. -/
def encode (a : Alphabet) (bytes : Text.Bytes) : List Char :=
  (Text.Digest.pieces a.group.1 bytes).flatMap a.encodeGroup

/-- The bytes of a group of letters, and whether it is a proper one. -/
def decodeGroup (a : Alphabet) (cs : List Char) : Text.Bytes × Bool :=
  let body := cs.takeWhile a.symbols.contains
  let n := body.foldl (fun n c ↦ n * 2 ^ a.bits + a.symbols.idxOf c) 0
  let count := a.bits * body.length / 8
  let spare := a.bits * body.length - 8 * count
  let whole := body.length = a.group.2 ||
    (0 < count && spare < a.bits && cs.length = a.group.2 && (cs.drop body.length).all (· == '='))
  (Text.Digest.bigEndian count (n / 2 ^ spare), whole)

/-- The bytes that groups of letters stand for up to one that is not proper. -/
def decodeAll (a : Alphabet) : List (List Char) → Text.Bytes × Bool
  | [] => ([], true)
  | cs :: rest =>
    match a.decodeGroup cs with
    | (bytes, true) =>
      let (more, whole) := decodeAll a rest
      (bytes ++ more, whole)
    | (bytes, false) => (bytes, false)

end Alphabet

/-- Goes between bytes and the letters of an alphabet. -/
def encodingTool (a : Alphabet) : Tool := do
  let (given, operands) ← options (OptionTable.make "diw:"
    [("decode", 'd'), ("ignore-garbage", 'i'), ("wrap", 'w')] true) 1
  let width ← match given.value? 'w' with
    | none => pure 76
    | some text =>
      if Text.isDecimal text.toList then pure (Text.readDecimal text.toList)
      else abort 1 s!"invalid wrap size: ‘{text}’"
  if 1 < operands.length then misuse 1 s!"extra operand {quotedOf operands 1}"
  let operand := operands.headD "-"
  match ← withInput operand fun fd ↦ do return .ok (← readAll fd) with
  | .error cause => abort 1 s!"{operand}: {reason cause}"
  | .ok (.error cause) => abort 1 s!"read error: {reason cause}"
  | .ok (.ok bytes) =>
    if given.has 'd' then
      let cs := (Text.Octets.ofBytes bytes).toList.filter fun c ↦
        c != '\n' && (!given.has 'i' || a.symbols.contains c || c = '=')
      let (bytes, whole) := a.decodeAll (Text.Digest.pieces a.group.2 cs)
      emit bytes
      if !whole then
        flush
        abort 1 "invalid input"
      return 0
    else
      let cs := a.encode bytes
      if width = 0 then print (String.ofList cs)
      else (Text.Digest.pieces width cs).forM fun line ↦ printLine (String.ofList line)
      return 0

end RevisionGraph.Tools
