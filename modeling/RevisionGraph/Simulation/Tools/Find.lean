import RevisionGraph.Simulation.Shell.Pattern
import RevisionGraph.Simulation.Shell.Printf
import RevisionGraph.Simulation.Text.Regex.Reader
import RevisionGraph.Simulation.Tools.Listing

/-!
# Finding files

`find` goes through directories and asks a question about each file.  A `FileQuestion` is made of
`FileTest`s, some of which do something; where none does, the files are printed for which the answer
is yes.
-/

set_option autoImplicit false

namespace RevisionGraph.Tools

open RevisionGraph.System ToolM
open RevisionGraph.Text (Regex)

/-! ## Questions -/

/-- How a number is compared: it is greater, less or equal. -/
structure FileNumber where
  sign : Option Char
  n : Nat

/-- The number is what is asked for. -/
def FileNumber.holds (f : FileNumber) (k : Nat) : Bool :=
  match f.sign with
  | some '+' => f.n < k
  | some _ => k < f.n
  | none => k = f.n

/-- A question on a file. -/
inductive FileTest where
  | name (p : Shell.Pattern) (fold : Bool)
  | path (p : Shell.Pattern) (fold : Bool)
  | regex (r : Regex) (fold : Bool)
  | kind (letters : List Char)
  | empty
  | size (n : FileNumber) (unit : Nat)
  | rights (mark : Option Char) (rights : Nat)
  | names (n : FileNumber)
  | newer (time : Nat)
  /-- the age in steps of some microseconds -/
  | age (n : FileNumber) (step : Nat)
  | same (number : Nat)
  | truth (b : Bool)
  | print (ending : String)
  | layout (text : String)
  | list
  | delete
  | prune
  | quit
  /-- runs a command for each file -/
  | run (words : List String) (inside : Bool)
  /-- runs a command for all files together -/
  | runTogether (number : Nat) (words : List String)

/-- The test does something. -/
def FileTest.isAction : FileTest → Bool
  | .print _ | .layout _ | .list | .delete | .run _ _ | .runTogether _ _ | .quit => true
  | _ => false

/-- Questions put together. -/
inductive FileQuestion where
  | test (t : FileTest)
  | not (a : FileQuestion)
  | and (a b : FileQuestion)
  | or (a b : FileQuestion)
  /-- the first one is asked in vain -/
  | both (a b : FileQuestion)

/-- Something is done with the files. -/
def FileQuestion.hasAction : FileQuestion → Bool
  | .test t => t matches .quit || t.isAction
  | .not a => a.hasAction
  | .and a b | .or a b | .both a b => a.hasAction || b.hasAction

/-! ## Reading questions -/

/-- What is read besides the question itself. -/
structure FindDraft where
  maxDepth : Option Nat := none
  minDepth : Nat := 0
  /-- a directory comes behind what is in it -/
  deepFirst : Bool := false
  /-- how many commands are run for all files together -/
  together : Nat := 0
  rest : List String := []

/-- Reads what is asked for. -/
abbrev FindReader := StateT FindDraft (ExceptT String ToolM)

namespace FindReader

/-- Refuses what is asked for. -/
def fail {α : Type} (text : String) : FindReader α := throw text

/-- The pattern that a text writes. -/
def patternOf (s : String) (fold : Bool) : Shell.Pattern :=
  Shell.Pattern.ofChars ((if fold then s.toLower else s).toList.map (·, false))

/-- The number behind a sign, and its unit. -/
def numberOf (word text : String) : FindReader (FileNumber × List Char) := do
  let (sign, body) := match text.toList with
    | '+' :: rest => (some '+', rest)
    | '-' :: rest => (some '-', rest)
    | cs => (none, cs)
  let digits := body.takeWhile Char.isDigit
  if digits.isEmpty then fail s!"invalid argument \x60{text}' to \x60{word}'"
  return (⟨sign, Text.readDecimal digits⟩, body.drop digits.length)

/-- Words up to one of some that end them; with them comes which one it was. -/
def commandWords (word : String) : FindReader (List String × String) := do
  let rest := (← get).rest
  let words := rest.takeWhile (· != ";")
  let more := (rest.zip (rest.drop 1)).takeWhile fun (a, b) ↦ !(a = "\x7b\x7d" && b = "+")
  let closed := more.length + 1 < rest.length && more.length + 1 ≤ words.length
  if closed then
    modify fun d ↦ { d with rest := rest.drop (more.length + 2) }
    return (rest.take more.length, "+")
  if words.isEmpty || words.length = rest.length then fail s!"missing argument to \x60{word}'"
  modify fun d ↦ { d with rest := rest.drop (words.length + 1) }
  return (words, ";")

/-- The value behind a word. -/
def argument (word : String) : FindReader String := do
  match (← get).rest with
  | value :: rest =>
    modify fun d ↦ { d with rest }
    return value
  | [] => fail s!"missing argument to \x60{word}'"

/-- A depth behind a word. -/
def depthOf (word : String) : FindReader Nat := do
  let value ← argument word
  if value.isEmpty || !value.toList.all Char.isDigit then
    fail s!"Expected a positive decimal integer argument to {word}, but got ‘{value}’"
  return Text.readDecimal value.toList

/-- The test that a word begins. -/
def readTest (word : String) : FindReader FileTest := do
  match word with
  | "-name" => return .name (patternOf (← argument word) false) false
  | "-iname" => return .name (patternOf (← argument word) true) true
  | "-path" | "-wholename" => return .path (patternOf (← argument word) false) false
  | "-ipath" => return .path (patternOf (← argument word) true) true
  | "-regex" | "-iregex" =>
    match Regex.read .basic (Text.Octets.toName (← argument word)) with
    | .ok (r, _) => return .regex r (word = "-iregex")
    | .error why => fail why.message
  | "-type" | "-xtype" =>
    let value ← argument word
    let letters := value.toList.filter (· ≠ ',')
    match letters.find? fun c ↦ !"bcdpflsD".toList.contains c with
    | some c => fail s!"Unknown argument to {word}: {c}"
    | none => return .kind letters
  | "-empty" => return .empty
  | "-size" =>
    let (n, unit) ← numberOf word (← argument word)
    return .size n (match unit with
      | ['c'] => 1
      | ['w'] => 2
      | ['k'] => 1024
      | ['M'] => 2 ^ 20
      | ['G'] => 2 ^ 30
      | _ => 512)
  | "-perm" =>
    let value ← argument word
    let mark := value.toList.head?.filter fun c ↦ c = '-' || c = '/'
    let body := if mark.isSome then String.ofList (value.toList.drop 1) else value
    match ({} : Rights.Change).result? 0 body with
    | some rights => return .rights mark rights
    | none => fail s!"invalid mode ‘{value}’"
  | "-links" => return .names (← numberOf word (← argument word)).1
  | "-newer" | "-anewer" | "-cnewer" =>
    let path ← argument word
    match ← ToolM.look path true with
    | .ok l => return .newer l.time
    | .error cause => fail s!"‘{path}’: {reason cause}"
  | "-samefile" =>
    let path ← argument word
    match ← ToolM.look path true with
    | .ok l => return .same l.number
    | .error cause => fail s!"‘{path}’: {reason cause}"
  | "-mtime" | "-atime" | "-ctime" =>
    return .age (← numberOf word (← argument word)).1 (86400 * 1000000)
  | "-mmin" | "-amin" | "-cmin" => return .age (← numberOf word (← argument word)).1 (60 * 1000000)
  | "-user" | "-group" | "-uid" | "-gid" => return .truth (["root", "0"].contains (← argument word))
  | "-true" | "-noleaf" | "-mount" | "-xdev" | "-daystart" | "-readable" | "-writable" =>
    return .truth true
  | "-executable" => return .rights (some '/') 0o111
  | "-false" => return .truth false
  | "-print" => return .print "\n"
  | "-print0" => return .print "\x00"
  | "-printf" => return .layout (← argument word)
  | "-ls" => return .list
  | "-delete" =>
    modify fun d ↦ { d with deepFirst := true }
    return .delete
  | "-depth" | "-d" =>
    modify fun d ↦ { d with deepFirst := true }
    return .truth true
  | "-prune" => return .prune
  | "-quit" => return .quit
  | "-maxdepth" =>
    let n ← depthOf word
    modify fun d ↦ { d with maxDepth := some n }
    return .truth true
  | "-mindepth" =>
    let n ← depthOf word
    modify fun d ↦ { d with minDepth := n }
    return .truth true
  | "-regextype" =>
    let _ ← argument word
    return .truth true
  | "-exec" | "-execdir" | "-ok" =>
    let (words, ending) ← commandWords word
    if ending = "+" then
      let number := (← get).together
      modify fun d ↦ { d with together := number + 1 }
      return .runTogether number words
    return .run words (word = "-execdir")
  | _ =>
    if word.startsWith "-" then fail s!"unknown predicate \x60{word}'"
    else fail s!"paths must precede expression: \x60{word}'"

mutual

/-- Questions of which the last one counts; the bound is on the number of words. -/
def readList : Nat → FindReader FileQuestion
  | 0 => fail "expression is too long"
  | n + 1 => do
    let a ← readChoice n
    match (← get).rest with
    | "," :: rest =>
      modify fun d ↦ { d with rest }
      return .both a (← readList n)
    | _ => return a

/-- Questions one of which must hold. -/
def readChoice : Nat → FindReader FileQuestion
  | 0 => fail "expression is too long"
  | n + 1 => do
    let a ← readAll n
    match (← get).rest with
    | o :: rest =>
      if o = "-o" || o = "-or" then
        modify fun d ↦ { d with rest }
        if rest.isEmpty then fail s!"expected an expression after '{o}'"
        return .or a (← readChoice n)
      return a
    | [] => return a

/-- Questions all of which must hold. -/
def readAll : Nat → FindReader FileQuestion
  | 0 => fail "expression is too long"
  | n + 1 => do
    let a ← readOne n
    match (← get).rest with
    | [] => return a
    | o :: rest =>
      if [")", "-o", "-or", ","].contains o then return a
      if o = "-a" || o = "-and" then
        modify fun d ↦ { d with rest }
        if rest.isEmpty then fail s!"expected an expression after '{o}'"
      return .and a (← readAll n)

/-- A test, or a question in parentheses. -/
def readOne : Nat → FindReader FileQuestion
  | 0 => fail "expression is too long"
  | n + 1 => do
    match (← get).rest with
    | [] => fail "expected an expression"
    | word :: rest =>
      modify fun d ↦ { d with rest }
      if word = "!" || word = "-not" then
        if rest.isEmpty then fail s!"expected an expression after '{word}'"
        return .not (← readOne n)
      else if word = "(" then
        if rest.head? = some ")" then fail "invalid expression; empty parentheses are not allowed."
        let q ← readList n
        match (← get).rest with
        | ")" :: rest =>
          modify fun d ↦ { d with rest }
          return q
        | _ => fail <| "invalid expression; I was expecting to find a ')' somewhere but did not " ++
            "see one."
      else if word = ")" then fail "invalid expression; you have too many ')'"
      else if ["-o", "-or", "-a", "-and", ","].contains word then
        fail <| s!"invalid expression; you have used a binary operator '{word}' with nothing " ++
          "before it."
      else return .test (← readTest word)

end

end FindReader

/-! ## Going through directories -/

/-- A file that is asked about. -/
structure Found where
  path : String
  /-- the path where the search began -/
  origin : String
  depth : Nat
  look : Look
  target : Option String

/-- The last name of what was found. -/
def Found.name (f : Found) : String := baseName f.path

/-- How far a search has come. -/
structure FindState where
  status : Nat := 0
  /-- what is in the directory is left out -/
  pruned : Bool := false
  ended : Bool := false
  /-- files for commands that are run for all of them, with the numbers of these, the newest first
  -/
  batches : List (Nat × List String × String) := []

/-- Searches. -/
abbrev FindM := StateT FindState ToolM

namespace FindM

/-- Says what went wrong, and goes on. -/
def say (text : String) : FindM Unit := do
  ToolM.flush
  ToolM.complain text
  modify fun s ↦ { s with status := 1 }

/-- Runs a command and tells whether it succeeded. -/
def runCommand (words : List String) (directory : Option String) : FindM Bool := do
  ToolM.flush
  let d ← (get : ToolM Desk)
  let word := words.headD ""
  let child ← ToolM.spawn words
    (do
      if let some path := directory then
        let _ ← Act.ask (.enter path)
        return)
    fun cause ↦ do
      let _ ← Act.ask (.write 2 (Text.Octets.toBytes s!"{d.call.name}: ‘{word}’: {reason cause}\n"))
      return 1
  return (← ToolM.awaitProcess child) == .exited 0

/-- What a letter in a layout stands for. -/
def detail (f : Found) (letter : Char) : String :=
  match letter with
  | 'p' => f.path
  | 'f' => f.name
  | 'h' => if f.path.toList.contains '/' then directoryName f.path else "."
  | 'P' =>
    if f.path = f.origin then ""
    else String.ofList ((f.path.toList.drop f.origin.length).dropWhile (· == '/'))
  | 'H' => f.origin
  | 'd' => toString f.depth
  | 's' => toString f.look.size
  | 'k' => toString (blocksOf f.look)
  | 'b' => toString (2 * blocksOf f.look)
  | 'm' => String.ofList (Nat.toDigits 8 f.look.rights)
  | 'M' => kindLetter f.look.kind ++ Rights.text f.look.rights
  | 'n' => toString f.look.names
  | 'i' => toString f.look.number
  | 'l' => f.target.getD ""
  | 'u' | 'g' => "root"
  | 'U' | 'G' => "0"
  | 'y' | 'Y' => match f.look.kind with
    | .directory => "d"
    | .file => "f"
    | .link => "l"
    | .pipe => "p"
    | .device => "c"
  | _ => ""

/-- The answer of a test. -/
def answerTest (f : Found) : FileTest → FindM Bool
  | .name p fold => return p.matchesText (if fold then f.name.toLower else f.name)
  | .path p fold => return p.matchesText (if fold then f.path.toLower else f.path)
  | .regex r fold => do
    let t := Regex.Subject.ofText (Text.Octets.toName f.path) fold
    return (Regex.longestAt t r (fun _ s ↦ s.position = t.chars.size) 0).isSome
  | .kind letters => return letters.any fun c ↦ [detail f 'y'].contains (String.singleton c)
  | .empty => do
    match f.look.kind with
    | .file => return f.look.size = 0
    | .directory => return (← namesIn f.path).isEmpty
    | _ => return false
  | .size n unit => return n.holds ((f.look.size + unit - 1) / unit)
  | .rights mark rights => return match mark with
    | some '-' => f.look.rights &&& rights = rights
    | some _ => rights = 0 || f.look.rights &&& rights ≠ 0
    | none => f.look.rights = rights
  | .names n => return n.holds f.look.names
  | .newer time => return time < f.look.time
  | .age n step => do
    let now : Nat ← ToolM.ask .clock
    return n.holds ((now - f.look.time) / step)
  | .same number => return f.look.number = number
  | .truth b => return b
  | .print ending => do
    ToolM.print (f.path ++ ending)
    return true
  | .layout text => do
    let (bytes, _) := Shell.Printf.expand (withDetails (fun c ↦ detail f c) text.toList)
    ToolM.emit bytes
    return true
  | .list => do
    let now : Nat ← ToolM.ask .clock
    ToolM.printLine (" ".intercalate [detail f 'i', detail f 'k', detail f 'M', detail f 'n', "root",
      "root", detail f 's', shortDate now f.look.time, f.path])
    return true
  | .delete => do
    if f.path = "." then return true
    let result ← if f.look.kind == .directory then ToolM.ask (.removeDirectory f.path)
      else ToolM.ask (.remove f.path)
    match result with
    | .ok () => return true
    | .error cause =>
      say s!"cannot delete ‘{f.path}’: {reason cause}"
      return false
  | .prune => do
    modify fun s ↦ { s with pruned := true }
    return true
  | .quit => do
    modify fun s ↦ { s with ended := true }
    return true
  | .run words inside => do
    let mark := "\x7b\x7d"
    let path := if inside then "./" ++ f.name else f.path
    runCommand (words.map (replaceAll mark path)) (if inside then some (directoryName f.path) else none)
  | .runTogether number words => do
    modify fun s ↦ { s with batches := (number, words, f.path) :: s.batches }
    return true
where
  replaceAll (mark new text : String) : String := text.replace mark new

/-- The answer of a question. -/
def answer (f : Found) : FileQuestion → FindM Bool
  | .test t => do
    if (← get).ended then return false
    answerTest f t
  | .not a => return !(← answer f a)
  | .and a b => do if ← answer f a then answer f b else return false
  | .or a b => do if ← answer f a then return true else answer f b
  | .both a b => do
    let _ ← answer f a
    answer f b

/-- Asks about a file and what is below it; the bound is on the depth. -/
def visit (d : FindDraft) (follow : Bool) (q : FileQuestion) (origin : String) :
    Nat → (depth : Nat) → String → FindM Unit
  | 0, _, _ => return
  | n + 1, depth, path => do
    if (← get).ended then return
    let found ← match ← ToolM.look path follow with
      | .ok l => pure (.ok l)
      | .error _ => ToolM.look path false
    match found with
    | .error cause => say s!"‘{path}’: {reason cause}"
    | .ok look =>
      let target ← if look.kind == .link then do
        let target ← ToolM.ask (.readLink path)
        pure target.toOption
        else pure none
      let f : Found := { path, origin, depth, look, target }
      let ask : FindM Unit := do
        if d.minDepth ≤ depth then
          let _ ← answer f q
          return
      modify fun s ↦ { s with pruned := false }
      if !d.deepFirst then ask
      let pruned := (← get).pruned
      if look.kind == .directory && !pruned && d.maxDepth.all (depth < ·) then
        (← ToolM.ask (.list path)).toOption.getD [] |>.forM fun name ↦
          visit d follow q origin n (depth + 1) (within path name)
      if d.deepFirst then ask

end FindM

/-- Finds files. -/
def find : Tool := do
  let arguments := (← get).call.arguments
  let switches := arguments.takeWhile fun a ↦ ["-H", "-L", "-P"].contains a
  let arguments := arguments.drop switches.length
  let begins (a : String) : Bool :=
    (a.startsWith "-" && a ≠ "-") || a = "(" || a = "!" || a = ")" || a = ","
  let paths := arguments.takeWhile (!begins ·)
  let words := arguments.drop paths.length
  let start : FindDraft := { rest := words }
  let reading : FindReader FileQuestion := do
    if words.isEmpty then return .test (.print "\n")
    let q ← FindReader.readList (10 * words.length + 10)
    match (← get).rest with
    | [] => return if q.hasAction then q else .and q (.test (.print "\n"))
    | _ => FindReader.fail "invalid expression; you have too many ')'"
  match ← (reading.run start).run with
  | .error why => abort 1 why
  | .ok (q, d) =>
    let paths := if paths.isEmpty then ["."] else paths
    let walk : FindM Unit := paths.forM fun path ↦
      FindM.visit d (switches.getLast? == some "-L") q path depthBound 0 path
    let ((), s) ← walk.run {}
    let numbers := (s.batches.map Prod.fst).eraseDups.reverse
    let runAll : FindM Unit := numbers.forM fun k ↦ do
      let batch := (s.batches.filter (·.1 == k)).reverse
      match batch with
      | (_, words, _) :: _ =>
        let fine ← FindM.runCommand (words ++ batch.map fun b ↦ b.2.2) none
        if !fine then modify fun s ↦ { s with status := 1 }
      | [] => return
    let ((), s) ← runAll.run s
    return s.status

end RevisionGraph.Tools
