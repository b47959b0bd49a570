import RevisionGraph.Simulation.Text.Regex.Reader
import RevisionGraph.Simulation.Tools.Files

/-!
# Tools that look for texts

`grep` shows the lines of its input that a pattern describes, and `expr` gives the value of an
expression of numbers and texts.
-/

set_option autoImplicit false

namespace RevisionGraph.Tools

open RevisionGraph.System ToolM
open RevisionGraph.Text (Regex)

/-! ## Lines with patterns -/

/-- What is looked for and how it is shown. -/
structure Grep where
  patterns : List Regex
  fold : Bool := false
  /-- a part of a line must be a word, or the whole line -/
  words : Bool := false
  lines : Bool := false
  inverted : Bool := false
  limit : Option Nat := none
  before : Nat := 0
  after : Nat := 0
  given : Given := []

namespace Grep

/-- A part of a line may count as found. -/
def fits (g : Grep) (t : Regex.Subject) (start : Nat) (s : Regex.Spot) : Bool :=
  if g.lines then start = 0 && s.position = t.chars.size
  else if g.words then !t.isWordBefore start && !t.isWordAt s.position
  else true

/-- The first part of a line from a position on that one of the patterns describes, the longest of
those that start there. -/
def find? (g : Grep) (t : Regex.Subject) (k : Nat) : Option (Nat × Nat) :=
  let found := g.patterns.filterMap fun r ↦
    (Regex.searchFor t r (g.fits t) (t.chars.size + 1 - k) k).map fun (a, s) ↦ (a, s.position)
  found.foldl (fun best f ↦ match best with
    | some b => if f.1 < b.1 || (f.1 = b.1 && b.2 < f.2) then some f else best
    | none => some f) none

/-- All parts of a line that are found; the bound is on their number. -/
def parts (g : Grep) (t : Regex.Subject) : Nat → Nat → List (Nat × Nat)
  | 0, _ => []
  | n + 1, k =>
    match g.find? t k with
    | none => []
    | some (a, b) =>
      if a = b then if t.chars.size ≤ a then [] else g.parts t n (a + 1)
      else (a, b) :: g.parts t n b

/-- A line is to be shown. -/
def selects (g : Grep) (t : Regex.Subject) : Bool := (g.find? t 0).isSome != g.inverted

end Grep

/-- Where the search through one input is. -/
structure GrepCursor where
  number : Nat := 0
  found : Nat := 0
  /-- lines before this one that were not shown, the newest first -/
  recent : List (Nat × String) := []
  /-- how many lines are still to be shown behind one that was found -/
  due : Nat := 0
  /-- the last line that was shown -/
  shown : Option Nat := none
  /-- a byte came that is no text -/
  binary : Bool := false

/-- What stands before a line. -/
def Grep.label (g : Grep) (title : Option String) (mark : String) (number : Nat) : String :=
  (match title with
    | some name => name ++ (if g.given.has 'Z' then "\x00" else mark)
    | none => "") ++
    if g.given.has 'n' then toString number ++ mark else ""

/-- Only the status, the names or the numbers of lines are of interest. -/
def Grep.isSilent (g : Grep) : Bool := ['q', 'l', 'L', 'c'].any g.given.has

/-- Looks at one line; the answer says whether to go on. -/
def Grep.look (g : Grep) (title : Option String) (ending : String) (c : GrepCursor)
    (line : String) : ToolM (GrepCursor × Bool) := do
  let name := Text.Octets.toName line
  let t := Regex.Subject.ofText name g.fold
  let isBinary := name.toList.any fun ch ↦ ch = '\x00' || Text.Octets.strays ≤ ch.toNat
  let c := { c with
    number := c.number + 1
    binary := c.binary || (isBinary && !g.given.has 'a' && !g.given.has 'z') }
  let write (mark : String) (number : Nat) (text : String) : ToolM Unit :=
    print (g.label title mark number ++ text ++ ending)
  if g.limit == some 0 then return (c, false)
  if g.selects t then
    let c := { c with found := c.found + 1 }
    let goesOn := !g.given.has 'q' && !g.given.has 'l' && !g.given.has 'L' &&
      g.limit.all (c.found < ·)
    if g.isSilent then return (c, goesOn)
    if c.binary then return (c, false)
    -- what stood before comes first
    let recent := (c.recent.take g.before).reverse
    let first := (recent.head?.map Prod.fst).getD c.number
    if (0 < g.before || 0 < g.after) && c.shown.any (· + 1 < first) then printLine "--"
    if !g.given.has 'o' then
      recent.forM fun (n, text) ↦ write "-" n text
      write ":" c.number line
    else if !g.inverted then
      (g.parts t (t.chars.size + 1) 0).forM fun (a, b) ↦
        write ":" c.number (Text.Octets.ofName (String.ofList (t.part a b)))
    return ({ c with recent := [], due := g.after, shown := some c.number }, goesOn || 0 < g.after)
  else if 0 < c.due && !g.isSilent then
    if !g.given.has 'o' then write "-" c.number line
    return ({ c with due := c.due - 1, shown := some c.number, recent := [] },
      1 < c.due || g.limit.all (c.found < ·))
  else
    return ({ c with recent := ((c.number, line) :: c.recent).take g.before }, true)

/-- Searches an open input; the answer tells how often something was found. -/
def Grep.input (g : Grep) (title : Option String) (operand : String) (fd : Nat) :
    ToolM (Attempt Nat) := do
  let isZero := g.given.has 'z'
  let result ← eachLineEnding (if isZero then 0 else 10) fd ({} : GrepCursor) fun c line ↦
    g.look title (if isZero then "\x00" else "\n") c line.text
  match result with
  | .error cause => return .error cause
  | .ok c =>
    if c.binary && !g.isSilent && 0 < c.found then
      printLine s!"{← name}: {operand}: binary file matches"
    let start := (title.map (· ++ ":")).getD ""
    if g.given.has 'c' then printLine (start ++ toString c.found)
    if (g.given.has 'l' && 0 < c.found) || (g.given.has 'L' && c.found = 0) then printLine operand
    return .ok c.found

/-- Searches what is at a path; the answer tells whether something was found, and whether nothing
went wrong.  The bound is on the depth of directories. -/
def Grep.path (g : Grep) (titled : Bool) : Nat → (top : Bool) → (shown path : String) →
    ToolM (Bool × Bool)
  | 0, _, _, _ => return (false, true)
  | n + 1, top, shown, path => do
    let say (why : String) : ToolM Unit := do
      if !g.given.has 's' then
        flush
        complain why
    let operand := if path = "-" then "(standard input)" else shown
    let recursive := g.given.has 'r' || g.given.has 'R'
    if recursive && path ≠ "-" && (← isDirectory path) then
      (← namesIn path).foldlM (fun (found, fine) name ↦ do
        let inner := within path name
        let skipped ← match ← ToolM.look inner false with
          | .ok l => pure (l.kind != .file && l.kind != .directory && !g.given.has 'R')
          | .error _ => pure true
        let excluded := (g.given.values '\x01').any (· == name)
        if skipped || excluded then return (found, fine)
        let label := if top && path = "." && shown = "" then name else within shown name
        let (f, o) ← g.path titled n false label inner
        return (found || f, fine && o)) (false, true)
    else
      match ← withInput path (g.input (if titled then some operand else none) operand) with
      | .ok found => return (0 < found, true)
      | .error cause =>
        say s!"{operand}: {reason cause}"
        return (false, false)

/-- What is said where no pattern was given. -/
def grepUsage : ToolM Nat := do
  tell s!"Usage: {← name} [OPTION]... PATTERNS [FILE]...\n"
  suggestHelp
  return 2

/-- The options of a search in lines. -/
def grepTable : OptionTable :=
  let table := OptionTable.make "EFGPivwxclLqsonHhrRe:f:m:A:B:C:abzZTUuyI" [("extended-regexp", 'E'),
    ("fixed-strings", 'F'), ("basic-regexp", 'G'), ("perl-regexp", 'P'), ("ignore-case", 'i'),
    ("invert-match", 'v'), ("word-regexp", 'w'), ("line-regexp", 'x'), ("count", 'c'),
    ("files-with-matches", 'l'), ("files-without-match", 'L'), ("quiet", 'q'), ("silent", 'q'),
    ("no-messages", 's'), ("only-matching", 'o'), ("line-number", 'n'), ("with-filename", 'H'),
    ("no-filename", 'h'), ("recursive", 'r'), ("dereference-recursive", 'R'), ("regexp", 'e'),
    ("file", 'f'), ("max-count", 'm'), ("after-context", 'A'), ("before-context", 'B'),
    ("context", 'C'), ("text", 'a'), ("null-data", 'z'), ("null", 'Z'), ("line-buffered", '\x02'),
    ("exclude-dir", '\x01'), ("color", '\x03'), ("colour", '\x03')] true
  { table with names := table.names.map fun n ↦
      if n.2.1 = '\x01' then (n.1, n.2.1, .always)
      else if n.2.1 = '\x03' then (n.1, n.2.1, .perhaps) else n }

/-- Searches in lines. -/
def grepAs (dialect : Option Char) : Tool := do
  let arguments := (← get).call.arguments
  let (given, operands) ← match grepTable.readFor (arguments.length + 1) arguments with
    | .ok answer => pure answer
    | .error why =>
      complain why
      return ← grepUsage
  let given := match dialect with
    | some c => (c, none) :: given
    | none => given
  let number (letter : Char) : ToolM (Option Nat) := do
    match given.value? letter with
    | none => return none
    | some text =>
      if !text.isEmpty && text.toList.all Char.isDigit then
        return some (Text.readDecimal text.toList)
      else if letter = 'm' then abort 2 "invalid max count"
      else abort 2 s!"{text}: invalid context length argument"
  let limit ← number 'm'
  let around ← number 'C'
  let before ← number 'B'
  let after ← number 'A'
  let listed ← (given.values 'f').mapM fun path ↦ do
    match ← withInput path readAll with
    | .ok bytes => pure (linesOf 10 bytes)
    | .error cause => abort 2 s!"{path}: {reason cause}"
  let texts := (given.values 'e').flatMap (Text.split '\n') ++ listed.flatten
  let hasPattern := !(given.values 'e').isEmpty || !listed.isEmpty
  if !hasPattern && operands.isEmpty then return ← grepUsage
  let texts := if hasPattern then texts else Text.split '\n' (operands.headD "")
  let operands := if hasPattern then operands else operands.drop 1
  let dialect := given.lastOf ['E', 'F', 'G', 'P']
  let compile (text : String) : ToolM Regex := do
    let text := Text.Octets.toName text
    if dialect == some 'F' then return .ofText text
    let d := if dialect == some 'E' || dialect == some 'P' then Regex.Dialect.extended else .basic
    if text.startsWith "[:" && text.endsWith ":]" then
      abort 2 "character class syntax is [[:space:]], not [:space:]"
    match Regex.read d text with
    | .ok (r, _) => return r
    | .error why => abort 2 why.message
  let patterns ← texts.mapM compile
  let g : Grep := {
    patterns, limit, given
    fold := given.has 'i' || given.has 'y', words := given.has 'w', lines := given.has 'x'
    inverted := given.has 'v', before := (before.or around).getD 0, after := (after.or around).getD 0 }
  let recursive := given.has 'r' || given.has 'R'
  let titled := match given.lastOf ['H', 'h'] with
    | some c => c = 'H'
    | none => recursive || 1 < operands.length
  let paths := if !operands.isEmpty then operands.map fun o ↦ (o, o)
    else if recursive then [("", ".")] else [("-", "-")]
  let (found, fine) ← paths.foldlM (fun (found, fine) (shown, path) ↦ do
    if found && given.has 'q' then return (found, fine)
    let (f, o) ← g.path titled depthBound true shown path
    return (found || f, fine && o)) (false, true)
  -- names without a match are a success, too
  let found := if given.has 'L' then !found else found
  return if found && (fine || given.has 'q') then 0 else if !fine then 2 else 1

/-- Searches in lines for what basic expressions match. -/
def grep : Tool := grepAs none

/-! ## Expressions -/

/-- Why an expression has no value. -/
structure ExprFault where
  text : String
  status : Nat := 2

/-- The words of an expression that are left, and the last one before them. -/
structure ExprWords where
  last : String := ""
  rest : List String

/-- Evaluates words. -/
abbrev ExprM := StateT ExprWords (Except ExprFault)

namespace Expr

/-- Refuses words. -/
def fault {α : Type} (text : String) : ExprM α := throw { text }

/-- Takes the next word, which must be there. -/
def word : ExprM String := do
  let w ← get
  match w.rest with
  | first :: rest =>
    set ({ last := first, rest } : ExprWords)
    return first
  | [] => fault s!"syntax error: missing argument after ‘{w.last}’"

/-- Takes the next word if it is one of some. -/
def oneOf? (words : List String) : ExprM (Option String) := do
  match (← get).rest with
  | first :: _ => if words.contains first then return some (← word) else return none
  | [] => return none

/-- The integer that a word is. -/
def integer? (s : String) : Option Int :=
  let digits := if s.startsWith "-" then s.toList.drop 1 else s.toList
  if digits.isEmpty || !digits.all Char.isDigit then none
  else
    let n : Int := Text.readDecimal digits
    some (if s.startsWith "-" then -n else n)

/-- A value counts as false. -/
def isNull (s : String) : Bool :=
  let digits := if s.startsWith "-" then s.toList.drop 1 else s.toList
  s.isEmpty || (!digits.isEmpty && digits.all (· == '0'))

/-- What a pattern finds at the start of a text: its group, or how long it is. -/
def find (text pattern : String) : ExprM String := do
  match Regex.read .basic (Text.Octets.toName pattern) with
  | .error why => fault why.message
  | .ok (r, groups) =>
    let t := Regex.Subject.ofText (Text.Octets.toName text) false
    let found := Regex.longestAt t r (fun _ _ ↦ true) 0
    match found, groups with
    | some s, 0 => return toString s.position
    | some s, _ =>
      return match s.group? 1 with
        | some (a, b) => Text.Octets.ofName (String.ofList (t.part a b))
        | none => ""
    | none, 0 => return "0"
    | none, _ => return ""

/-- Binary operators, from those that bind least. -/
def levels : List (List String) :=
  [["|"], ["&"], ["<", "<=", "=", "==", "!=", ">=", ">"], ["+", "-"], ["*", "/", "%"], [":"]]

/-- The value of a binary operator. -/
def apply (o a b : String) : ExprM String := do
  let truth (b : Bool) : String := if b then "1" else "0"
  let compare (holds : Ordering → Bool) : String := match integer? a, integer? b with
    | some x, some y => truth (holds (Ord.compare x y))
    | _, _ => truth (holds (Ord.compare a b))
  let number (s : String) : ExprM Int := match integer? s with
    | some n => pure n
    | none => fault "non-integer argument"
  match o with
  | "|" => return if !isNull a then a else if isNull b then "0" else b
  | "&" => return if isNull a || isNull b then "0" else a
  | "<" => return compare (· == .lt)
  | "<=" => return compare (· != .gt)
  | "=" | "==" => return compare (· == .eq)
  | "!=" => return compare (· != .eq)
  | ">=" => return compare (· != .lt)
  | ">" => return compare (· == .gt)
  | ":" => find a b
  | _ =>
    let x ← number a
    let y ← number b
    if o = "+" then return toString (x + y)
    else if o = "-" then return toString (x - y)
    else if o = "*" then return toString (x * y)
    else if y = 0 then fault "division by zero"
    else return toString (if o = "/" then Int.tdiv x y else Int.tmod x y)

mutual

/-- The value of operators of some levels; `live` says that it is needed. -/
def binary : Nat → (live : Bool) → List (List String) → ExprM String
  | 0, _, _ => fault "syntax error"
  | n + 1, live, [] => primary n live
  | n + 1, live, operators :: tighter => do
    let a ← binary n live tighter
    further n live operators tighter a

/-- The value of operators of one level behind a first operand. -/
def further : Nat → (live : Bool) → List String → List (List String) → String → ExprM String
  | 0, _, _, _, a => return a
  | n + 1, live, operators, tighter, a => do
    match ← oneOf? operators with
    | none => return a
    | some o =>
      let needed := live && !(o = "|" && !isNull a) && !(o = "&" && isNull a)
      let b ← binary n needed tighter
      let value ← if needed then apply o a b
        else pure (if o = "|" then a else if o = "&" then "0" else "")
      further n live operators tighter value

/-- The value of a word, of a function or of what stands in parentheses. -/
def primary : Nat → (live : Bool) → ExprM String
  | 0, _ => fault "syntax error"
  | n + 1, live => do
    match ← word with
    | "(" =>
      let value ← binary n live levels
      let w ← get
      match w.rest with
      | ")" :: _ =>
        let _ ← word
        return value
      | other :: _ => fault s!"syntax error: expecting ')' instead of ‘{other}’"
      | [] => fault s!"syntax error: expecting ')' after ‘{w.last}’"
    | ")" => fault "syntax error: unexpected ')'"
    | "+" => word
    | "length" =>
      let text ← primary n live
      return toString (Text.Octets.toName text).length
    | "match" =>
      let text ← primary n live
      let pattern ← primary n live
      if live then find text pattern else return ""
    | "index" =>
      let text := (Text.Octets.toName (← primary n live)).toList
      let set := (Text.Octets.toName (← primary n live)).toList
      return toString ((text.findIdx? set.contains).map (· + 1) |>.getD 0)
    | "substr" =>
      let text := (Text.Octets.toName (← primary n live)).toList
      let start := integer? (← primary n live)
      let length := integer? (← primary n live)
      return match start, length with
        | some a, some l =>
          if a ≤ 0 || l ≤ 0 then "" else
            Text.Octets.ofName (String.ofList ((text.drop (a.toNat - 1)).take l.toNat))
        | _, _ => ""
    | text => return text

end

/-- The value of an expression. -/
def value (words : List String) : Except ExprFault String := do
  let (value, w) ← (binary (20 * words.length + 20) true levels).run { rest := words }
  match w.rest with
  | extra :: _ => throw { text := s!"syntax error: unexpected argument ‘{extra}’" }
  | [] => return value

end Expr

/-- Evaluates an expression. -/
def expr : Tool := do
  let words := (← get).call.arguments
  let words := if words.head? = some "--" then words.drop 1 else words
  if words.isEmpty then misuse 2 "missing operand"
  match Expr.value words with
  | .ok value =>
    printLine value
    return if Expr.isNull value then 1 else 0
  | .error fault => abort fault.status fault.text

end RevisionGraph.Tools
