import RevisionGraph.Simulation.Shell.Pattern
import RevisionGraph.Simulation.Shell.Printf
import RevisionGraph.Simulation.Tools.Reading

/-!
# Tools that rearrange lines and characters

`sort`, `uniq` and `comm` work on lines in an order, `paste` puts lines side by side; `tr` replaces
characters, `cut` takes parts of lines, and `fold` breaks them.
-/

set_option autoImplicit false

namespace RevisionGraph.Tools

open RevisionGraph.System ToolM

/-! ## Order -/

/-- The order of texts by their bytes. -/
def isAtMost (a b : String) : Bool := (compare a b).isLE

/-- The number that a line starts with, behind blanks: its sign, its digits and those behind the
point. -/
def leadingNumber (s : String) : Bool × List Char × List Char :=
  let (negative, cs) := match s.toList.dropWhile fun c ↦ c = ' ' || c = '\t' with
    | '-' :: rest => (true, rest)
    | rest => (false, rest)
  let whole := cs.takeWhile Char.isDigit
  match cs.drop whole.length with
  | '.' :: rest => (negative, whole, rest.takeWhile Char.isDigit)
  | _ => (negative, whole, [])

/-- The power of 1024 that the letter behind a number means. -/
def unitPower (s : String) : Nat :=
  let body := (s.toList.dropWhile fun c ↦ c = ' ' || c = '\t').dropWhile fun c ↦
    c = '-' || c.isDigit || c = '.'
  match body with
  | c :: _ => (("KMGTPEZY".toList.findIdx? (· == c.toUpper)).map (· + 1)).getD 0
  | [] => 0

/-- The order of the numbers that lines start with, of which units count for more than digits. -/
def compareSizes (number : String → String → Ordering) (a b : String) : Ordering :=
  let isNegative (s : String) : Bool := (leadingNumber s).1
  let isZero (s : String) : Bool :=
    let (_, w, f) := leadingNumber s
    (w ++ f).all (· == '0')
  let rank (s : String) : Int :=
    if isZero s then 0
    else if isNegative s then -(unitPower s + 1 : Int) else (unitPower s + 1 : Int)
  (compare (rank a) (rank b)).then (number a b)

/-- The order of the numbers that lines start with. -/
def compareNumbers (a b : String) : Ordering :=
  let (na, wa, fa) := leadingNumber a
  let (nb, wb, fb) := leadingNumber b
  let places := max fa.length fb.length
  let value (negative : Bool) (w f : List Char) : Int :=
    let n : Int := Text.readDecimal (w ++ f ++ List.replicate (places - f.length) '0')
    if negative then -n else n
  compare (value na wa fa) (value nb wb fb)

/-- What lines are compared by. -/
structure SortKey where
  /-- the first field and its first character, both counted from one -/
  start : Nat × Nat := (1, 1)
  /-- the last field and its last character, the whole field if that is zero -/
  finish : Option (Nat × Nat) := none
  letters : List Char := []

/-- Where a key starts or ends, with the letters behind it. -/
def keyPlace? (s : String) : Option ((Nat × Nat) × List Char) :=
  let cs := s.toList
  let field := cs.takeWhile Char.isDigit
  let (character, rest) := match cs.drop field.length with
    | '.' :: rest => (rest.takeWhile Char.isDigit, rest.dropWhile Char.isDigit)
    | rest => ([], rest)
  if field.isEmpty || !rest.all "bdfginhrMRV".toList.contains then none
  else some ((Text.readDecimal field, Text.readDecimal character), rest)

/-- The key that a text asks for. -/
def SortKey.ofText? (s : String) : Option SortKey :=
  match Text.split ',' s with
  | [start] => do
    let (place, letters) ← keyPlace? start
    return { start := (place.1, max place.2 1), letters }
  | [start, finish] => do
    let (place, letters) ← keyPlace? start
    let (final, more) ← keyPlace? finish
    return { start := (place.1, max place.2 1), finish := some final, letters := letters ++ more }
  | _ => none

/-- How many characters stand before each field, the last number being the length of the line.  A
blank before a field belongs to it unless a separator is given. -/
def fieldStarts (separator : Option Char) (cs : List Char) : List Nat :=
  let isBlank (c : Char) : Bool := c = ' ' || c = '\t'
  match separator with
  | some mark =>
    0 :: (cs.zipIdx.filterMap fun (c, k) ↦ if c = mark then some (k + 1) else none)
  | none =>
    let marks := (cs.zip (cs.drop 1)).zipIdx.filterMap fun ((a, b), k) ↦
      if !isBlank a && isBlank b then some (k + 1) else none
    0 :: marks

/-- The part of a line that a key means. -/
def SortKey.take (k : SortKey) (separator : Option Char) (line : String) : String :=
  let cs := line.toList
  let isBlank (c : Char) : Bool := c = ' ' || c = '\t'
  let starts := fieldStarts separator cs
  let skipBlanks (n : Nat) : Nat :=
    if k.letters.contains 'b' then n + ((cs.drop n).takeWhile isBlank).length else n
  let start := match starts[k.start.1 - 1]? with
    | some n => skipBlanks n + (k.start.2 - 1)
    | none => cs.length
  let finish := match k.finish with
    | none => cs.length
    | some (field, 0) => match starts[field]? with
      | some n => if separator.isSome then n - 1 else n
      | none => cs.length
    | some (field, character) => match starts[field - 1]? with
      | some n => min (skipBlanks n + character) cs.length
      | none => cs.length
  String.ofList ((cs.take finish).drop start)

/-- Compares by a key, without turning the order. -/
def SortKey.compare (k : SortKey) (separator : Option Char) (a b : String) : Ordering :=
  let x := k.take separator a
  let y := k.take separator b
  if k.letters.contains 'h' then compareSizes compareNumbers x y
  else if k.letters.any fun c ↦ c = 'n' || c = 'g' then compareNumbers x y
  else
    let folded (s : String) : String :=
      let kept := s.toList.filter fun c ↦
        (!k.letters.contains 'd' || c.isAlphanum || c = ' ' || c = '\t') &&
          (!k.letters.contains 'i' || (' ' ≤ c && c ≤ '~'))
      let kept := if k.letters.contains 'b' then kept.dropWhile fun c ↦ c = ' ' || c = '\t' else kept
      String.ofList (if k.letters.contains 'f' then kept.map Char.toUpper else kept)
    Ord.compare (folded x) (folded y)

/-- The order that keys give, each turned round if it says so. -/
def compareBy (keys : List SortKey) (separator : Option Char) (a b : String) : Ordering :=
  keys.foldl (fun o k ↦ o.then
    (if k.letters.contains 'r' then (k.compare separator a b).swap else k.compare separator a b)) .eq

/-- Sorts lines. -/
def sort : Tool := do
  let table := OptionTable.make "bcCdfghik:mno:rRsS:t:T:uVz" [("ignore-leading-blanks", 'b'),
    ("dictionary-order", 'd'), ("ignore-case", 'f'), ("general-numeric-sort", 'g'),
    ("human-numeric-sort", 'h'), ("key", 'k'), ("merge", 'm'), ("numeric-sort", 'n'),
    ("output", 'o'), ("reverse", 'r'), ("stable", 's'), ("field-separator", 't'), ("unique", 'u'),
    ("version-sort", 'V'), ("zero-terminated", 'z'), ("check", 'c')] true
  let (given, operands) ← options table 2
  let ending : UInt8 := if given.has 'z' then 0 else 10
  let separator ← match (given.value? 't').map String.toList with
    | none => pure none
    | some [c] => pure (some c)
    | some ['\\', '0'] => pure (some '\x00')
    | some [] => abort 2 "empty tab"
    | some cs => abort 2 s!"multi-character tab ‘{String.ofList cs}’"
  let global := "bdfghinrV".toList.filter given.has
  let keys ← (given.values 'k').mapM fun text ↦ match SortKey.ofText? text with
    | some key =>
      if key.start.1 = 0 then abort 2 s!"field number is zero: invalid field specification ‘{text}’"
      else pure (if key.letters.isEmpty then { key with letters := global } else key)
    | none => abort 2 s!"invalid number at field start: invalid count at start of ‘{text}’"
  let keys := if keys.isEmpty then [{ letters := global }] else keys
  let order (a b : String) : Ordering :=
    let first := compareBy keys separator a b
    if given.has 's' || given.has 'u' then first
    else first.then (if given.has 'r' then (compare a b).swap else compare a b)
  let contents ← (if operands.isEmpty then ["-"] else operands).mapM fun operand ↦ do
    match ← withInput operand readAll with
    | .ok bytes => return linesOf ending bytes
    | .error cause =>
      if cause = .isADirectory then abort 2 s!"read failed: {operand}: {reason cause}"
      else abort 2 s!"cannot read: {operand}: {reason cause}"
  if given.has 'c' || given.has 'C' then
    let lines := contents.flatten
    let wrong := (lines.zip (lines.drop 1)).zipIdx.find? fun ((a, b), _) ↦
      match order a b with
      | .gt => true
      | .eq => given.has 'u'
      | .lt => false
    match wrong with
    | some ((_, b), k) =>
      let operand := operands.headD "-"
      if given.has 'c' then complain s!"{operand}:{k + 2}: disorder: {b}"
      return 1
    | none => return 0
  let sorted := contents.flatten.mergeSort fun a b ↦ (order a b).isLE
  let kept := if !given.has 'u' then sorted
    else (sorted.foldl (fun kept line ↦ match kept with
      | last :: _ => if order last line == .eq then kept else line :: kept
      | [] => [line]) []).reverse
  let bytes := kept.flatMap fun line ↦ Text.Octets.toBytes line ++ [ending]
  match given.value? 'o' with
  | none => emit bytes
  | some path =>
    if let .error cause ← writeFile path .anew bytes then
      abort 2 s!"open failed: {path}: {reason cause}"
  return 0

/-! ## Repetitions -/

/-- A line without its first fields and characters, in one case if that does not matter. -/
def repeatKey (fields characters : Nat) (only : Option Nat) (fold : Bool) (line : String) : String :=
  let isBlank (c : Char) : Bool := c = ' ' || c = '\t'
  let dropField (cs : List Char) : List Char :=
    (cs.dropWhile isBlank).dropWhile fun c ↦ !isBlank c
  let cs := ((List.range fields).foldl (fun cs _ ↦ dropField cs) line.toList).drop characters
  let cs := match only with
    | some n => cs.take n
    | none => cs
  String.ofList (if fold then cs.map Char.toLower else cs)

/-- Drops lines that are repeated. -/
def uniq : Tool := do
  let table := OptionTable.make "cdDf:is:uw:z" [("count", 'c'), ("repeated", 'd'),
    ("all-repeated", 'D'), ("skip-fields", 'f'), ("ignore-case", 'i'), ("skip-chars", 's'),
    ("unique", 'u'), ("check-chars", 'w'), ("zero-terminated", 'z')] true
  let (given, operands) ← options table 1
  if let some extra := operands[2]? then misuse 1 s!"extra operand ‘{extra}’"
  let number (letter : Char) : Option Nat := (given.value? letter).bind countOf?
  let key := repeatKey ((number 'f').getD 0) ((number 's').getD 0) (number 'w') (given.has 'i')
  let ending : UInt8 := if given.has 'z' then 0 else 10
  let input := operands.headD "-"
  match operands[1]? with
  | some path =>
    if path ≠ "-" then
      match ← ask (.openFile path .anew) with
      | .ok fd =>
        let _ ← ask (.duplicate fd 1)
      | .error cause => abort 1 s!"{path}: {reason cause}"
  | none => pure ()
  let showGroup (lines : List String) : ToolM Unit := do
    let n := lines.length
    let wanted := if given.has 'd' && given.has 'u' then false
      else if given.has 'D' || given.has 'd' then 1 < n
      else if given.has 'u' then n = 1
      else true
    if wanted then
      let shown := if given.has 'D' then lines.reverse else [lines.getLastD ""]
      shown.forM fun line ↦ do
        if given.has 'c' then print (padded 7 n ++ " ")
        emit (Text.Octets.toBytes line ++ [ending])
  let result ← withInput input fun fd ↦ eachLineEnding ending fd ([] : List String) fun group line ↦ do
    match group with
    | last :: _ =>
      if key last == key line.text then return (line.text :: group, true)
      showGroup group
      return ([line.text], true)
    | [] => return ([line.text], true)
  match result with
  | .ok [] => return 0
  | .ok group =>
    showGroup group
    return 0
  | .error cause => abort 1 <|
    if cause = .isADirectory then s!"error reading '{input}': {reason cause}" else s!"{input}: {reason cause}"

/-- Compares sorted lines. -/
def comm : Tool := do
  let (given, operands) ← options (OptionTable.make "123z" [] true) 1
  match operands with
  | [first, second] =>
    let read (path : String) : ToolM (List String) := do
      match ← withInput path readAll with
      | .ok bytes => return linesOf 10 bytes
      | .error cause => abort 1 s!"{path}: {reason cause}"
    let a ← read first
    let b ← read second
    let tabs (before : List Char) : String :=
      "".pushn '\t' (before.filter fun c ↦ !given.has c).length
    let showIn (column : Char) (line : String) : ToolM Unit := do
      if !given.has column then
        printLine (tabs (['1', '2', '3'].takeWhile (· ≠ column)) ++ line)
    let disorder (lines : List String) : Bool :=
      (lines.zip (lines.drop 1)).any fun (x, y) ↦ !isAtMost x y
    let _ ← iterateFor (a.length + b.length) (a, b) fun (a, b) ↦ do
      match a, b with
      | x :: xs, y :: ys =>
        match compare x y with
        | .lt =>
          showIn '1' x
          return ((xs, y :: ys), true)
        | .gt =>
          showIn '2' y
          return ((x :: xs, ys), true)
        | .eq =>
          showIn '3' x
          return ((xs, ys), true)
      | x :: xs, [] =>
        showIn '1' x
        return ((xs, []), true)
      | [], y :: ys =>
        showIn '2' y
        return (([], ys), true)
      | [], [] => return (([], []), false)
    let wrong := [(1, a), (2, b)].filter fun (_, lines) ↦ disorder lines
    if wrong.isEmpty then return 0
    flush
    wrong.forM fun (k, _) ↦ complain s!"file {k} is not in sorted order"
    complain "input is not in sorted order"
    return 1
  | [] => misuse 1 "missing operand"
  | [first] => misuse 1 s!"missing operand after ‘{first}’"
  | _ => misuse 1 ("extra operand " ++ quotedOf operands 2)

/-- Puts lines side by side. -/
def paste : Tool := do
  let (given, operands) ← options
    (OptionTable.make "d:sz" [("delimiters", 'd'), ("serial", 's')] true) 1
  let marks := match (given.value? 'd').map String.toList with
    | some [] => [""]
    | some cs => (Text.Octets.ofBytes (Shell.Printf.expand (String.ofList cs)).1).toList.map
      String.singleton
    | none => ["\t"]
  let joined (items : List String) : String :=
    String.join (items.zipIdx.map fun (item, k) ↦
      if k = 0 then item else marks.getD ((k - 1) % marks.length) "" ++ item)
  let operands := if operands.isEmpty then ["-"] else operands
  -- operands that mean the input share its lines
  let shared := (operands.filter (· == "-")).length
  let input ← if shared = 0 then pure [] else
    match ← readAll 0 with
    | .ok bytes => pure (linesOf 10 bytes)
    | .error cause => abort 1 s!"-: {reason cause}"
  let (columns, _) ← operands.foldlM (fun (columns, k) operand ↦ do
    if operand = "-" then
      let own := if given.has 's' then (if k = 0 then input else [])
        else input.zipIdx.filterMap fun (line, n) ↦ if n % shared = k then some line else none
      return (columns ++ [own], k + 1)
    match ← withInput operand readAll with
    | .ok bytes => return (columns ++ [linesOf 10 bytes], k)
    | .error cause => abort 1 s!"{operand}: {reason cause}") (([] : List (List String)), 0)
  if given.has 's' then columns.forM fun lines ↦ printLine (joined lines)
  else
    let rows := (columns.map List.length).foldl max 0
    (List.range rows).forM fun k ↦ printLine (joined (columns.map fun c ↦ c.getD k ""))
  return 0

/-! ## Characters -/

/-- A part of a set of bytes. -/
inductive SetPart where
  | bytes (bytes : List UInt8)
  /-- letters of one case -/
  | upper
  | lower
  /-- a byte as often as is needed -/
  | fill (b : UInt8)

/-- The bytes of a kind of characters. -/
def kindBytes? (name : String) : Option (List UInt8) :=
  if Shell.Pattern.kinds.any (·.1 == name) then
    some ((List.range 128).filterMap fun n ↦
      if Shell.Pattern.isOfKind name (Char.ofNat n) then some (UInt8.ofNat n) else none)
  else none

/-- One character of a set, an escape read; what follows comes with it. -/
def setByte : List Char → UInt8 × List Char
  | '\\' :: rest =>
    if rest.isEmpty then (92, [])
    else
      let (bytes, after) := Shell.Printf.takeEscape 3 rest
      (bytes.getLastD 92, after)
  | c :: rest => (UInt8.ofNat c.toNat, rest)
  | [] => (0, [])

/-- The parts of a set; the bound is on the length of the text. -/
def setParts : Nat → List Char → Except String (List SetPart)
  | 0, _ => .ok []
  | _ + 1, [] => .ok []
  | n + 1, cs => do
    let plain (cs : List Char) : Except String (List SetPart) := do
      let (a, rest) := setByte cs
      match rest with
      | '-' :: c :: more =>
        let (b, rest) := setByte (c :: more)
        if b < a then
          let shown (b : UInt8) : String := Text.Octets.ofBytes [b]
          throw s!"range-endpoints of '{shown a}-{shown b}' are in reverse collating sequence order"
        let range := (List.range (b.toNat + 1 - a.toNat)).map fun k ↦ a + UInt8.ofNat k
        return .bytes range :: (← setParts n rest)
      | rest => return .bytes [a] :: (← setParts n rest)
    match cs with
    | '[' :: ':' :: rest =>
      let name := String.ofList (rest.takeWhile (· ≠ ':'))
      match rest.drop name.length with
      | ':' :: ']' :: after =>
        let part ← match name, kindBytes? name with
          | "upper", _ => pure SetPart.upper
          | "lower", _ => pure SetPart.lower
          | _, some bytes => pure (SetPart.bytes bytes)
          | _, none => throw s!"invalid character class ‘{name}’"
        return part :: (← setParts n after)
      | _ => plain cs
    | '[' :: c :: '*' :: rest =>
      let digits := rest.takeWhile Char.isDigit
      match rest.drop digits.length with
      | ']' :: after =>
        let b := UInt8.ofNat c.toNat
        let count := if digits.head? = some '0' then Shell.Printf.octalValue digits
          else Text.readDecimal digits
        return (if count = 0 then .fill b else .bytes (List.replicate count b)) ::
          (← setParts n after)
      | _ => plain cs
    | _ => plain cs

/-- The bytes of a set.  What is to be filled up fills it up to a length. -/
def setBytes (length : Nat) (parts : List SetPart) : List UInt8 :=
  let range (a b : Nat) : List UInt8 := (List.range (b + 1 - a)).map fun k ↦ UInt8.ofNat (a + k)
  let fixed := (parts.map fun
    | .bytes bs => bs.length
    | .upper | .lower => 26
    | .fill _ => 0).sum
  parts.flatMap fun
    | .bytes bs => bs
    | .upper => range 65 90
    | .lower => range 97 122
    | .fill b => List.replicate (length - fixed) b

/-- Replaces the characters of one set by those of another, deletes them, or leaves one of several
in a row. -/
def tr : Tool := do
  let table := OptionTable.make "cCdst" [("complement", 'c'), ("delete", 'd'),
    ("squeeze-repeats", 's'), ("truncate-set1", 't')] false
  let (given, operands) ← options table 1
  let deletes := given.has 'd'
  let squeezes := given.has 's'
  let least := if deletes == squeezes then 2 else 1
  let most := if deletes && !squeezes then 1 else 2
  if operands.isEmpty then misuse 1 "missing operand"
  if operands.length < least then
    complain ("missing operand after " ++ quotedOf operands (operands.length - 1))
    tell (if squeezes then "Two strings must be given when both deleting and squeezing repeats.\n"
      else "Two strings must be given when translating.\n")
    suggestHelp
    quit 1
  if let some extra := operands[most]? then
    complain s!"extra operand ‘{extra}’"
    if operands.length = 2 then
      tell "Only one string may be given when deleting without squeezing repeats.\n"
    suggestHelp
    quit 1
  let sets ← operands.mapM fun text ↦ match setParts (text.length + 1) text.toList with
    | .ok parts => pure parts
    | .error why => abort 1 why
  let first := setBytes 0 (sets.headD [])
  let first := if given.has 'c' || given.has 'C' then
      ((List.range 256).map UInt8.ofNat).filter fun b ↦ !first.contains b
    else first
  let second := setBytes first.length (sets.getD 1 [])
  if !deletes && operands.length = 2 && second.isEmpty && !given.has 't' && !first.isEmpty then
    abort 1 "when not truncating set1, string2 must be non-empty"
  let replacement := if deletes || operands.length < 2 then []
    else first.zip (if given.has 't' then second
      else second ++ List.replicate (first.length - second.length) (second.getLastD 0))
  -- the last one counts
  let map (b : UInt8) : UInt8 := ((replacement.reverse.find? (·.1 == b)).map Prod.snd).getD b
  let images := (List.range 256).map fun n ↦ map (UInt8.ofNat n)
  let images := images.toArray
  let squeezed := if operands.length = 2 then second else first
  let result ← eachChunk 0 (none : Option UInt8) fun last bytes ↦ do
    let kept := if deletes then bytes.filter fun b ↦ !first.contains b
      else bytes.map fun b ↦ images.getD b.toNat b
    if squeezes then
      let (last, shown) := kept.foldl (fun (last, shown) b ↦
        if last == some b && squeezed.contains b then (last, shown) else (some b, b :: shown))
        (last, ([] : Text.Bytes))
      emit shown.reverse
      return (last, true)
    emit kept
    return (last, true)
  match result with
  | .ok _ => return 0
  | .error cause => abort 1 s!"read error: {reason cause}"

/-! ## Parts of lines -/

/-- Ranges of numbers from one on; one that is open at its end goes on. -/
abbrev Ranges := List (Nat × Option Nat)

/-- Reads ranges like `1,3-5,7-`. -/
def rangesOf? (s : String) : Option Ranges :=
  (Text.split ',' (s.map fun c ↦ if c = ' ' then ',' else c)).mapM fun part ↦
    let isNumber (t : String) : Bool := !t.isEmpty && t.toList.all Char.isDigit
    let value (t : String) : Nat := Text.readDecimal t.toList
    match Text.split '-' part with
    | [a] => if isNumber a && value a ≠ 0 then some (value a, some (value a)) else none
    | [a, b] =>
      let start := if a.isEmpty then some 1 else if isNumber a && value a ≠ 0 then some (value a) else none
      let finish := if b.isEmpty then some none else if isNumber b then some (some (value b)) else none
      match start, finish with
      | some x, some y => if part = "-" || y.any (· < x) then none else some (x, y)
      | _, _ => none
    | _ => none

/-- The number is in a range. -/
def Ranges.contains (r : Ranges) (n : Nat) : Bool :=
  r.any fun (a, b) ↦ a ≤ n && b.all (n ≤ ·)

/-- Cuts out parts of lines. -/
def cut : Tool := do
  let table := OptionTable.make "b:c:d:f:nsz" [("bytes", 'b'), ("characters", 'c'),
    ("delimiter", 'd'), ("fields", 'f'), ("only-delimited", 's'), ("output-delimiter", 'o'),
    ("complement", 'C'), ("zero-terminated", 'z')] true
  let table := { table with names := table.names.map fun n ↦
    if n.2.1 = 'o' then (n.1, 'o', .always) else n }
  let (given, operands) ← options table 1
  let lists := given.filter fun o ↦ ['b', 'c', 'f'].contains o.1
  let (letter, list) ← match lists with
    | [(letter, some list)] => pure (letter, list)
    | [] => misuse 1 "you must specify a list of bytes, characters, or fields"
    | _ => misuse 1 "only one list may be specified"
  if given.has 'd' && letter ≠ 'f' then
    misuse 1 "an input delimiter may be specified only when operating on fields"
  let mark ← match (given.value? 'd').map String.toList with
    | none => pure '\t'
    | some [] => pure '\x00'
    | some [c] => pure c
    | some _ => misuse 1 "the delimiter must be a single character"
  let ranges ← match rangesOf? list with
    | some ranges => pure ranges
    | none =>
      let what := if letter = 'f' then "fields are" else "byte/character positions are"
      if (Text.split ',' list).any (· == "0") then misuse 1 s!"{what} numbered from 1"
      else if list = "-" then misuse 1 "invalid range with no endpoint: -"
      else if list.toList.all fun (c : Char) ↦ c.isDigit || c = '-' || c = ',' then
        misuse 1 "invalid decreasing range"
      else
        let rest := list.toList.dropWhile fun (c : Char) ↦ c.isDigit || c = ',' || c = '-'
        misuse 1 (if letter = 'f' then s!"invalid field value ‘{String.ofList rest}’"
          else s!"invalid byte/character position ‘{String.ofList rest}’")
  let wanted (n : Nat) : Bool := ranges.contains n != given.has 'C'
  let ending : UInt8 := if given.has 'z' then 0 else 10
  onInputs operands fun _ fd ↦ eachLineEnding ending fd () fun _ line ↦ do
    let out (text : String) : ToolM Unit := emit (Text.Octets.toBytes text ++ [ending])
    if letter = 'f' then
      if !line.text.toList.contains mark then
        if !given.has 's' then out line.text
      else
        let fields := (Text.split mark line.text).zipIdx.filterMap fun (f, k) ↦
          if wanted (k + 1) then some f else none
        out (((given.value? 'o').getD (String.singleton mark)).intercalate fields)
    else
      let kept := line.text.toList.zipIdx.filterMap fun (c, k) ↦
        if wanted (k + 1) then some (c, k) else none
      match given.value? 'o' with
      | none => out (String.ofList (kept.map Prod.fst))
      | some between =>
        let starts (k : Nat) : Bool := ranges.any fun r ↦ r.1 = k + 1
        let pieces := kept.zipIdx.map fun ((c, k), n) ↦
          (if 0 < n && starts k then between else "") ++ String.singleton c
        out (String.join pieces)
    return ((), true)

/-- Breaks lines that are wider than a width. -/
def fold : Tool := do
  let (given, operands) ← options
    (OptionTable.make "bsw:" [("bytes", 'b'), ("spaces", 's'), ("width", 'w')] true) 1
  let width ← match (given.value? 'w') with
    | none => pure 80
    | some text => match countOf? text with
      | some (n + 1) => pure (n + 1)
      | _ => abort 1 s!"invalid number of columns: ‘{text}’"
  onInputs operands fun _ fd ↦ eachLine fd () fun _ line ↦ do
    let pieces ← iterateFor (line.text.length + 1) (([] : List String), line.text.toList)
      fun (done, rest) ↦ do
        if rest.length ≤ width then return ((String.ofList rest :: done, []), false)
        let piece := rest.take width
        let afterBlank := (piece.reverse.dropWhile (· ≠ ' ')).reverse
        let piece := if given.has 's' && !afterBlank.isEmpty then afterBlank else piece
        return ((String.ofList piece :: done, rest.drop piece.length), true)
    print ("\n".intercalate pieces.1.reverse ++ if line.closed then "\n" else "")
    return ((), true)

end RevisionGraph.Tools
