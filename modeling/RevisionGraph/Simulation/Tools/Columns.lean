import RevisionGraph.Simulation.Tools.Dumping

/-!
# Tools for fields and columns

`join` puts lines of two sorted files together that have a field in common, `expand` and `unexpand`
go between tabs and blanks; `factor` finds the primes of numbers, `tsort` an order for pairs, and
`shuf` chooses among lines.
-/

set_option autoImplicit false

namespace RevisionGraph.Tools

open RevisionGraph.System ToolM

/-! ## Common fields -/

/-- How lines are joined. -/
structure Joining where
  separator : Option Char := none
  /-- the fields in common, counted from zero -/
  fields : Nat × Nat := (0, 0)
  /-- which files' lines without partner are shown -/
  alone : List Nat := []
  /-- lines with partner are not shown -/
  onlyAlone : Bool := false
  empty : String := ""
  /-- fields that are shown: of the first or second file, or the field in common -/
  shown : Option (List (Option (Nat × Nat))) := none
  foldsCase : Bool := false

namespace Joining

/-- The fields of a line. -/
def split (j : Joining) (line : String) : List String :=
  match j.separator with
  | some '\n' => [line]
  | some c => Text.split c line
  | none => (Text.split ' ' (line.map fun c ↦ if c = '\t' then ' ' else c)).filter (· != "")

/-- The field that two files are joined by. -/
def keyOf (j : Joining) (file : Nat) (fields : List String) : String :=
  fields.getD (if file = 0 then j.fields.1 else j.fields.2) ""

/-- The order of such fields. -/
def compareKeys (j : Joining) (a b : String) : Ordering :=
  if j.foldsCase then compare a.toLower b.toLower else compare a b

/-- The line for fields of both files, of which one may be missing. -/
def line (j : Joining) (a b : Option (List String)) : String :=
  let common := match a, b with
    | some fields, _ => j.keyOf 0 fields
    | none, some fields => j.keyOf 1 fields
    | none, none => ""
  let orEmpty (s : String) : String := if s.isEmpty then j.empty else s
  let parts := match j.shown with
    | some fields => fields.map fun f ↦
      orEmpty (match f with
        | none => common
        | some (0, k) => (a.getD []).getD k ""
        | some (_, k) => (b.getD []).getD k "")
    | none =>
      let others (key : Nat) (fields : Option (List String)) : List String :=
        ((fields.getD []).eraseIdx key).map orEmpty
      common :: (others j.fields.1 a ++ others j.fields.2 b)
  (String.singleton (match j.separator with
    | some '\n' | none => ' '
    | some c => c)).intercalate parts

end Joining

/-- The field of a number, counted from zero. -/
def fieldNumber (text : String) : ToolM Nat := do
  let n := Text.readDecimal text.toList
  if !Text.isDecimal text.toList || n = 0 then abort 1 s!"invalid field number: ‘{text}’"
  return n - 1

/-- A field that is to be shown. -/
def shownField (text : String) : ToolM (Option (Nat × Nat)) := do
  match text.toList with
  | ['0'] => return none
  | '1' :: '.' :: rest => return some (0, ← fieldNumber (String.ofList rest))
  | '2' :: '.' :: rest => return some (1, ← fieldNumber (String.ofList rest))
  | '1' :: _ | '2' :: _ => abort 1 s!"invalid field specifier: ‘{text}’"
  | _ => abort 1 s!"invalid file number in field spec: ‘{text}’"

/-- Where a joining has come to. -/
structure JoinState where
  left : List (Nat × List String)
  right : List (Nat × List String)
  /-- some line had no partner -/
  lonely : Bool := false
  disordered : Nat × Nat

/-- Joins the lines of two files. -/
def join : Tool := do
  let table := OptionTable.make "a:e:ij:1:2:o:t:v:z" [("ignore-case", 'i')] true
  let table := { table with names := table.names ++ [("check-order", 'C', .never),
    ("nocheck-order", 'N', .never), ("header", 'H', .never)] }
  let (given, operands) ← options table 1
  match operands with
  | [] => misuse 1 "missing operand"
  | [_] => misuse 1 s!"missing operand after {quotedOf operands 0}"
  | [first, second] =>
    let field (letter : Char) : ToolM Nat := do
      match given.value? letter, given.value? 'j' with
      | some text, _ | none, some text => fieldNumber text
      | none, none => return 0
    let alone ← (given.values 'a' ++ given.values 'v').mapM fun text ↦ do
      match text with
      | "1" => return 0
      | "2" => return 1
      | _ => abort 1 s!"invalid field number: ‘{text}’"
    let separator : Option Char ← match given.value? 't' with
      | none => pure none
      | some "\\0" => pure (some '\x00')
      | some text => match text.toList with
        | [] => pure (some '\n')
        | [c] => pure (some c)
        | _ => abort 1 s!"multi-character tab ‘{text}’"
    let shown : Option (List (Option (Nat × Nat))) ← match given.values 'o' with
      | [] => pure none
      | ["auto"] => pure none
      | texts => do
        let parts := texts.flatMap fun t ↦ (Text.split ',' t).flatMap (Text.split ' ')
        pure (some (← (parts.filter (· != "")).mapM shownField))
    let j : Joining := {
      separator, alone, shown, fields := (← field '1', ← field '2'), onlyAlone := given.has 'v'
      empty := (given.value? 'e').getD "", foldsCase := given.has 'i' }
    let read (operand : String) : ToolM (List (Nat × List String)) := do
      match ← withInput operand readAll with
      | .error cause => abort 1 s!"{operand}: {reason cause}"
      | .ok bytes =>
        return (linesOf (if given.has 'z' then 0 else 10) bytes).zipIdx.map fun (l, k) ↦ (k + 1, j.split l)
    let a ← read first
    let b ← read second
    let (a, b) ← if given.has 'H' then do
        if !(a.isEmpty && b.isEmpty) then
          printLine (j.line ((a.head?).map Prod.snd) ((b.head?).map Prod.snd))
        pure (a.drop 1, b.drop 1)
      else pure (a, b)
    let automatic := (given.value? 'o') = some "auto"
    let j := if !automatic then j else
      let count (lines : List (Nat × List String)) : Nat := ((lines.head?).map (·.2.length)).getD 0
      let rest (file key count : Nat) : List (Option (Nat × Nat)) :=
        ((List.range count).filter (· != key)).map fun k ↦ some (file, k)
      { j with shown := some (none :: (rest 0 j.fields.1 (count a) ++ rest 1 j.fields.2 (count b))) }
    -- the first line of each file that comes too late
    let disorder (file : Nat) (lines : List (Nat × List String)) : Option (Nat × String) :=
      ((lines.zip (lines.drop 1)).find? fun (x, y) ↦
        j.compareKeys (j.keyOf file x.2) (j.keyOf file y.2) = .gt).map fun (_, y) ↦
          (y.1, " ".intercalate y.2)
    let late (file : Nat) (name : String) (lines : List (Nat × List String)) (reached : Nat) :
        ToolM Bool := do
      match disorder file lines with
      | some (n, text) =>
        if n ≤ reached && !given.has 'N' then
          complain s!"{name}:{n}: is not sorted: {text}"
          return true
        return false
      | none => return false
    let sayLate (file : Nat) (done : Nat × Nat) (reached : Nat) : ToolM (Nat × Nat) := do
      let told := if file = 0 then done.1 else done.2
      if told != 0 then return done
      let found ← if file = 0 then late 0 first a reached else late 1 second b reached
      if !found then return done
      if given.has 'C' then quit 1
      return if file = 0 then (1, done.2) else (done.1, 1)
    let step (s : JoinState) : ToolM (JoinState × Bool) := do
      let lonely (file : Nat) (fields : List String) : ToolM Unit := do
        if j.alone.contains file then
          printLine (if file = 0 then j.line (some fields) none else j.line none (some fields))
      let check (file : Nat) (s : JoinState) (next : List (Nat × List String)) : ToolM JoinState := do
        let reached := ((next.head?).map Prod.fst).getD (a.length + b.length + 2)
        if s.lonely || given.has 'C' then
          return { s with disordered := ← sayLate file s.disordered reached }
        return s
      match s.left, s.right with
      | [], [] => return (s, false)
      | (_, x) :: more, [] =>
        lonely 0 x
        let s := { s with left := more, lonely := true }
        let s ← check 0 s more
        return (s, true)
      | [], (_, y) :: more =>
        lonely 1 y
        let s := { s with right := more, lonely := true }
        let s ← check 1 s more
        return (s, true)
      | (n, x) :: moreLeft, (m, y) :: moreRight =>
        match j.compareKeys (j.keyOf 0 x) (j.keyOf 1 y) with
        | .lt =>
          lonely 0 x
          let s := { s with left := moreLeft, lonely := true }
          return (← check 0 s moreLeft, true)
        | .gt =>
          lonely 1 y
          let s := { s with right := moreRight, lonely := true }
          return (← check 1 s moreRight, true)
        | .eq =>
          let same (file : Nat) (key : String) (l : Nat × List String) : Bool :=
            j.compareKeys key (j.keyOf file l.2) = .eq
          let xs := ((n, x) :: moreLeft).takeWhile (same 0 (j.keyOf 0 x))
          let ys := ((m, y) :: moreRight).takeWhile (same 1 (j.keyOf 1 y))
          let s := { s with left := s.left.drop xs.length, right := s.right.drop ys.length }
          let s ← check 0 s s.left
          let s ← check 1 s s.right
          if !j.onlyAlone then
            xs.forM fun x ↦ ys.forM fun y ↦ printLine (j.line (some x.2) (some y.2))
          return (s, true)
    let s ← iterate { left := a, right := b, disordered := (0, 0) } step
    if s.disordered != (0, 0) then
      flush
      abort 1 "input is not in sorted order"
    return 0
  | _ :: _ :: extra :: _ => misuse 1 s!"extra operand '{extra}'"

/-! ## Tabs -/

/-- Where tabs lead to: places one after the other, and perhaps a distance for all behind them. -/
structure TabStops where
  places : List Nat := []
  distance : Option Nat := some 8

namespace TabStops

/-- The next place behind a column. -/
def next (t : TabStops) (column : Nat) : Option Nat :=
  match t.places.find? (column < ·) with
  | some place => some place
  | none => t.distance.map fun d ↦ (column / d + 1) * d

/-- Reads a list of places; one alone is a distance. -/
def read (text : String) : ToolM TabStops := do
  let parts := ((Text.split ',' text).flatMap (Text.split ' ')).filter (· != "")
  let places ← parts.mapM fun p ↦ do
    if !Text.isDecimal p.toList then
      let rest := p.toList.dropWhile Char.isDigit
      abort 1 s!"tab size contains invalid character(s): ‘{String.ofList rest}’"
    let n := Text.readDecimal p.toList
    if n = 0 then abort 1 "tab size cannot be 0"
    return n
  match places with
  | [] => return {}
  | [n] => return { distance := some n }
  | places =>
    if (places.zip (places.drop 1)).any fun (a, b) ↦ b ≤ a then
      abort 1 "tab sizes must be ascending"
    return { places, distance := none }

end TabStops

/-- Options of which digits behind a hyphen are a list of places. -/
def withTabArguments : ToolM Unit := modify fun d ↦
  let arguments := d.call.arguments.map fun argument ↦ match argument.toList with
    | '-' :: c :: rest => if c.isDigit then "-t" ++ String.ofList (c :: rest) else argument
    | _ => argument
  { d with call := { d.call with words := d.call.name :: arguments } }

/-- A line with blanks in place of tabs. -/
def expandLine (t : TabStops) (onlyFirst : Bool) (line : String) : String :=
  let (shown, _, _) := line.toList.foldl (fun (shown, column, leading) c ↦
    if c = '\t' && leading then
      let place := (t.next column).getD (column + 1)
      (List.replicate (place - column) ' ' ++ shown, place, leading)
    else
      let leading := leading && (!onlyFirst || c = ' ')
      if c = '\x08' then (c :: shown, column - 1, leading) else (c :: shown, column + 1, leading))
    (([] : List Char), 0, true)
  String.ofList shown.reverse

/-- Turns tabs into spaces. -/
def expandTabs : Tool := do
  withTabArguments
  let (given, operands) ← options (OptionTable.make "it:" [("initial", 'i'), ("tabs", 't')] true) 1
  let t ← match given.values 't' with
    | [] => pure {}
    | texts => TabStops.read (",".intercalate texts)
  onInputs operands fun _ fd ↦ eachLine fd () fun _ line ↦ do
    print (expandLine t (given.has 'i') line.text ++ if line.closed then "\n" else "")
    return ((), true)

/-- Where a line with tabs in place of blanks has come to. -/
structure TabWriter where
  shown : List Char := []
  column : Nat := 0
  /-- blanks that may become a tab -/
  waiting : List Char := []
  converts : Bool := true

/-- A line with tabs in place of blanks. -/
def unexpandLine (t : TabStops) (all : Bool) (line : String) : String :=
  let s := line.toList.foldl (fun (s : TabWriter) c ↦
    if !s.converts then { s with shown := c :: s.shown }
    else if c = ' ' || c = '\t' then
      match t.next s.column with
      | none => { s with shown := c :: (s.waiting ++ s.shown), waiting := [], converts := false }
      | some place =>
        if c = '\t' then
          -- one blank before a tab belongs to it
          { s with shown := '\t' :: s.shown, waiting := [], column := place }
        else if s.column + 1 = place then
          if s.waiting.isEmpty then { s with waiting := [' '], column := place }
          else { s with shown := '\t' :: s.shown, waiting := [], column := place }
        else { s with waiting := ' ' :: s.waiting, column := s.column + 1 }
    else
      { shown := c :: (s.waiting ++ s.shown), waiting := [], column := s.column + 1
        converts := all }) {}
  String.ofList (s.waiting ++ s.shown).reverse

/-- Turns spaces into tabs. -/
def unexpandTabs : Tool := do
  withTabArguments
  let (given, operands) ← options (OptionTable.make "aft:" [("all", 'a'), ("first-only", 'f'),
    ("tabs", 't')] true) 1
  let t ← match given.values 't' with
    | [] => pure {}
    | texts => TabStops.read (",".intercalate texts)
  let all := (given.has 'a' || given.has 't') && !given.has 'f'
  onInputs operands fun _ fd ↦ eachLine fd () fun _ line ↦ do
    print (unexpandLine t all line.text ++ if line.closed then "\n" else "")
    return ((), true)

/-! ## Numbers -/

/-- The primes of a number from some divisor on; the bound is on the divisors. -/
def primesFrom : Nat → Nat → Nat → List Nat
  | 0, _, n => [n]
  | bound + 1, divisor, n =>
    if n < 2 then []
    else if n < divisor * divisor then [n]
    else if n % divisor = 0 then divisor :: primesFrom bound divisor (n / divisor)
    else primesFrom bound (if divisor = 2 then 3 else divisor + 2) n

/-- Factors numbers. -/
def factor : Tool := do
  let (_, operands) ← options (OptionTable.make "h" [("exponents", 'h')] true) 1
  let one (word : String) : ToolM Bool := do
    let digits := (word.toList.dropWhile (· == ' '))
    let digits := match digits with
      | '+' :: rest => rest
      | rest => rest
    if !Text.isDecimal digits then
      complain s!"‘{word}’ is not a valid positive integer"
      return false
    let n := Text.readDecimal digits
    let primes := primesFrom (2 ^ 33) 2 n
    printLine (s!"{n}:" ++ String.join (primes.map fun p ↦ s!" {p}"))
    return true
  if operands.isEmpty then
    match ← readAll 0 with
    | .ok bytes =>
      let words := (Text.split ' ' ((Text.Octets.ofBytes bytes).map fun c ↦
        if c = '\n' || c = '\t' then ' ' else c)).filter (· != "")
      onEach words one
    | .error cause => abort 1 s!"error reading input: {reason cause}"
  else onEach operands one

/-! ## Orders -/

/-- Takes items from a queue, and adds to it those before which nothing is left; the bound is on the
items.  With each item of an order that is yet to be found stands how many come before it. -/
def orderFor (pairs : List (String × String)) : Nat → List String → List (String × Nat) →
    List String → List String × List (String × Nat)
  | 0, _, counts, done => (done.reverse, counts)
  | _ + 1, [], counts, done => (done.reverse, counts)
  | n + 1, item :: queue, counts, done =>
    let followers := ((pairs.filter fun p ↦ p.1 == item).map Prod.snd).reverse
    let (queue, counts) := followers.foldl (fun (queue, counts) f ↦
      match counts.find? (·.1 == f) with
      | some (_, 1) => (queue ++ [f], counts.filter (·.1 != f))
      | some (_, k) => (queue, counts.map fun c ↦ if c.1 = f then (f, k - 1) else c)
      | none => (queue, counts)) (queue, counts)
    orderFor pairs n queue counts (item :: done)

/-- Puts things behind what they depend on. -/
def tsort : Tool := do
  let (_, operands) ← options (OptionTable.make "" [] true) 1
  if 1 < operands.length then misuse 1 s!"extra operand {quotedOf operands 1}"
  let operand := operands.headD "-"
  match ← withInput operand readAll with
  | .error cause => abort 1 s!"{operand}: {reason cause}"
  | .ok bytes =>
    let words := (Text.split ' ' ((Text.Octets.ofBytes bytes).map fun c ↦
      if c = '\n' || c = '\t' then ' ' else c)).filter (· != "")
    if words.length % 2 != 0 then abort 1 s!"{operand}: input contains an odd number of tokens"
    let pairs := (Text.Digest.pieces 2 words).map fun p ↦ (p.getD 0 "", p.getD 1 "")
    let items := sortedTexts words.eraseDups
    let pairs := pairs.filter fun p ↦ p.1 != p.2
    let counted := items.map fun i ↦ (i, (pairs.filter (·.2 == i)).length)
    let (free, bound) := counted.partition fun c ↦ c.2 = 0
    let (ordered, left) := orderFor pairs (items.length + 1) (free.map Prod.fst) bound []
    let left := left.map Prod.fst
    ordered.forM printLine
    if left.isEmpty then return 0
    flush
    complain s!"{operand}: input contains a loop:"
    left.forM complain
    left.forM printLine
    return 1

/-- Shuffles lines. -/
def shuf : Tool := do
  let (given, operands) ← options (OptionTable.make "ei:n:o:rz" [("echo", 'e'), ("input-range", 'i'),
    ("head-count", 'n'), ("output", 'o'), ("repeat", 'r')] true) 1
  let lines ← match given.value? 'i' with
    | some range =>
      match (Text.split '-' range).map String.toList with
      | [low, high] =>
        if !(Text.isDecimal low && Text.isDecimal high) ||
            Text.readDecimal high + 1 < Text.readDecimal low then
          abort 1 s!"invalid input range: ‘{range}’"
        let start := Text.readDecimal low
        pure ((List.range (Text.readDecimal high + 1 - start)).map fun k ↦ toString (start + k))
      | _ => abort 1 s!"invalid input range: ‘{range}’"
    | none =>
      if given.has 'e' then pure operands
      else
        if 1 < operands.length then misuse 1 s!"extra operand {quotedOf operands 1}"
        let operand := operands.headD "-"
        match ← withInput operand readAll with
        | .ok bytes => pure (linesOf 10 bytes)
        | .error cause => abort 1 s!"{operand}: {reason cause}"
  let count ← match given.value? 'n' with
    | none => pure lines.length
    | some text =>
      if !Text.isDecimal text.toList then abort 1 s!"invalid line count: ‘{text}’"
      pure (Text.readDecimal text.toList)
  (lines.reverse.take count).forM printLine
  return 0

end RevisionGraph.Tools
