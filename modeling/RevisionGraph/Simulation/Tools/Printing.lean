import RevisionGraph.Simulation.Shell.Printf
import RevisionGraph.Simulation.Shell.Test
import RevisionGraph.Simulation.Tools.Options

/-!
# Tools that print

`echo`, `printf`, `yes`, `seq`, `basename` and `dirname` write what their arguments say; `pwd`,
`printenv`, `whoami`, `id`, `uname` and their like tell about their surroundings; `true`, `false`
and `test` only have a status.
-/

set_option autoImplicit false

namespace RevisionGraph.Tools

open RevisionGraph.System ToolM
open RevisionGraph.Shell (Printf.expand Printf.format)

/-- Does nothing. -/
def succeed : Tool := return 0

/-- Does nothing, and fails. -/
def fail : Tool := return 1

/-! ## What the arguments say -/

/-- A text whose hexadecimal escapes are written as octal ones with a mark before the digits. -/
def octalEscapes (mark : List Char) : Nat → List Char → List Char
  | 0, cs => cs
  | n + 1, '\\' :: 'x' :: rest =>
    let digits := Text.takeHex (rest.take 2)
    if digits.isEmpty then '\\' :: 'x' :: octalEscapes mark n rest
    else
      let octal := Nat.toDigits 8 (Text.readHex digits)
      '\\' :: mark ++ List.replicate (3 - octal.length) '0' ++ octal ++
        octalEscapes mark n (rest.drop digits.length)
  | n + 1, '\\' :: c :: rest => '\\' :: c :: octalEscapes mark n rest
  | n + 1, c :: rest => c :: octalEscapes mark n rest
  | _ + 1, [] => []

/-- Prints its arguments as they are; with the option `-e` escapes are read. -/
def echo : Tool := do
  let arguments := (← get).call.arguments
  let isOption (a : String) := a.startsWith "-" && a != "-" && (a.toList.drop 1).all "neE".toList.contains
  let options := (arguments.takeWhile isOption).flatMap String.toList
  let text := " ".intercalate (arguments.dropWhile isOption)
  let escapes := (options.filter fun c ↦ c = 'e' || c = 'E').getLast? == some 'e'
  let (bytes, whole) := if escapes then
      Printf.expand (String.ofList (octalEscapes ['0'] (text.length + 1) text.toList))
    else (Text.Octets.toBytes text, true)
  emit (if !options.contains 'n' && whole then bytes ++ [10] else bytes)
  return 0

/-- Writes its arguments in a layout. -/
def printf : Tool := do
  let arguments := (← get).call.arguments
  match if arguments.head? = some "--" then arguments.drop 1 else arguments with
  | [] => misuse 1 "missing operand"
  | layout :: arguments =>
    let layout := String.ofList (octalEscapes [] (layout.length + 1) layout.toList)
    let printed := Printf.format layout arguments
    emit printed.bytes
    if printed.fault.isSome || !printed.problems.isEmpty then flush
    printed.problems.forM fun p ↦ complain <| s!"‘{p.1}’: " ++
      if p.2 = "expected numeric value" then "expected a numeric value"
      else if p.2 = "not completely converted" then "value not completely converted"
      else p.2
    if let some why := printed.fault then
      let directive := String.ofList (why.toList.takeWhile (· ≠ ':'))
      complain <| (if directive.startsWith "%" then directive else "%") ++
        ": invalid conversion specification"
    return if printed.problems.isEmpty && printed.fault.isNone then 0 else 1

/-- Prints a line until nobody reads it. -/
def yes : Tool := do
  let words := (← get).call.arguments
  let words := if words.head? = some "--" then words.drop 1 else words
  let line := (if words.isEmpty then "y" else " ".intercalate words) ++ "\n"
  let bytes := Text.Octets.toBytes line
  let block := (List.replicate (blockSize / bytes.length + 1) bytes).flatten
  whileTrue do
    emit block
    return true
  return 0

/-! ### Sequences -/

/-- A decimal number as an integer and the number of its places. -/
structure Decimal where
  units : Int
  places : Nat

namespace Decimal

/-- Reads a number, which may have a power of ten behind it. -/
def ofText? (s : String) : Option Decimal :=
  let (negative, cs) := match s.toList.dropWhile (· == ' ') with
    | '-' :: rest => (true, rest)
    | '+' :: rest => (false, rest)
    | rest => (false, rest)
  let whole := cs.takeWhile Char.isDigit
  let (fraction, rest) := match cs.drop whole.length with
    | '.' :: rest => (rest.takeWhile Char.isDigit, rest.dropWhile Char.isDigit)
    | rest => ([], rest)
  let power : Option Int := match rest with
    | [] => some 0
    | e :: more =>
      let digits := if more.head? = some '-' || more.head? = some '+' then more.drop 1 else more
      let n : Int := Text.readDecimal digits
      if e.toLower ≠ 'e' || digits.isEmpty || !digits.all Char.isDigit then none
      else some (if more.head? = some '-' then -n else n)
  match power with
  | none => none
  | some power =>
    if whole.isEmpty && fraction.isEmpty then none
    else
      let n : Int := Text.readDecimal (whole ++ fraction)
      let places : Int := fraction.length - power
      some ⟨(if negative then -n else n) * 10 ^ (-places).toNat, places.toNat⟩

/-- The units of the number if it has so many places. -/
def unitsAt (d : Decimal) (places : Nat) : Int := d.units * 10 ^ (places - d.places)

/-- The number with all of its places, and zeros before it up to a width. -/
def text (width : Nat) (d : Decimal) : String :=
  let sign := if d.units < 0 then ['-'] else []
  let digits := Nat.toDigits 10 d.units.natAbs
  let digits := List.replicate (d.places + 1 - digits.length) '0' ++ digits
  let whole := digits.take (digits.length - d.places)
  let shown := if d.places = 0 then whole else whole ++ '.' :: digits.drop whole.length
  String.ofList (sign ++ List.replicate (width - sign.length - shown.length) '0' ++ shown)

end Decimal

/-- Prints numbers from a first one on in steps up to a last one. -/
def seq : Tool := do
  let arguments := (← get).call.arguments
  let isNumber (a : String) : Bool := match a.toList with
    | '-' :: c :: _ => c.isDigit || c = '.'
    | _ => false
  let table := OptionTable.make "f:s:w"
    [("format", 'f'), ("separator", 's'), ("equal-width", 'w')] false
  let before := arguments.takeWhile fun a ↦ !isNumber a
  let (given, operands) ← match table.readFor (before.length + 1) before with
    | .ok (given, operands) => pure (given, operands ++ arguments.drop before.length)
    | .error why => misuse 1 why
  let numbers ← operands.mapM fun a ↦ match Decimal.ofText? a with
    | some d => pure d
    | none => misuse 1 s!"invalid floating point argument: ‘{a}’"
  let one : Decimal := ⟨1, 0⟩
  let (first, step, last) ← match numbers with
    | [] => misuse 1 "missing operand"
    | [last] => pure (one, one, last)
    | [first, last] => pure (first, one, last)
    | [first, step, last] => pure (first, step, last)
    | _ => misuse 1 ("extra operand " ++ quotedOf operands 3)
  if step.units = 0 then misuse 1 ("invalid Zero increment value: " ++ quotedOf operands 1)
  let places := max first.places step.places
  let common := max places last.places
  let (start, change, finish) := (first.unitsAt common, step.unitsAt common, last.unitsAt common)
  let count := (Int.fdiv (finish - start) change + 1).toNat
  let separator := (given.value? 's').getD "\n"
  if let some layout := given.value? 'f' then
    if !layout.toList.contains '%' then abort 1 s!"format ‘{layout}’ has no % directive"
  let number (k : Nat) : Decimal := ⟨first.unitsAt places + k * step.unitsAt places, places⟩
  let width := if !given.has 'w' then 0
    else max (Decimal.text 0 (number 0)).length
      ((Decimal.text 0 ⟨Int.fdiv finish (10 ^ (common - places)), places⟩).length)
  let _ ← iterateFor count 0 fun k ↦ do
    if 0 < k then print separator
    let text := (number k).text width
    match given.value? 'f' with
    | some layout => emit (Printf.format layout [text]).bytes
    | none => print text
    return (k + 1, true)
  if 0 < count then print "\n"
  return 0

/-! ### Names of files -/

/-- Shows the last names of paths. -/
def basename : Tool := do
  let table := OptionTable.make "as:z" [("multiple", 'a'), ("suffix", 's'), ("zero", 'z')] false
  let (given, operands) ← options table 1
  let ending := if given.has 'z' then "\x00" else "\n"
  let show_ (suffix path : String) : ToolM Unit := do
    let name := baseName path
    let shown := if !suffix.isEmpty && name.endsWith suffix && name != suffix then
        String.ofList (name.toList.take (name.length - suffix.length))
      else name
    print (shown ++ ending)
  match operands with
  | [] => misuse 1 "missing operand"
  | path :: more =>
    if given.has 'a' || given.has 's' then
      operands.forM (show_ ((given.value? 's').getD ""))
    else match more with
      | _ :: extra :: _ => misuse 1 s!"extra operand ‘{extra}’"
      | _ => show_ (more.headD "") path
    return 0

/-- Shows paths without their last names. -/
def dirname : Tool := do
  let (given, operands) ← options (OptionTable.make "z" [("zero", 'z')] false) 1
  if operands.isEmpty then misuse 1 "missing operand"
  operands.forM fun path ↦ print (directoryName path ++ if given.has 'z' then "\x00" else "\n")
  return 0

/-! ## What the surroundings say -/

/-- Shows the current directory. -/
def pwd : Tool := do
  let (given, _) ← options (OptionTable.make "LP" [("logical", 'L'), ("physical", 'P')] true) 1
  let path ← match ← ask .directory with
    | some path => pure path
    | none => abort 1 "error: No such file or directory"
  let known := ((← get).call.value? "PWD").getD ""
  let same ← match ← look known true, ← look "." true with
    | .ok a, .ok b => pure (a.number == b.number)
    | _, _ => pure false
  printLine (if given.has 'L' && same && known.startsWith "/" then known else path)
  return 0

/-- Shows variables. -/
def printenv : Tool := do
  let (given, names) ← options (OptionTable.make "0" [("null", '0')] false) 2
  let ending := if given.has '0' then "\x00" else "\n"
  let call := (← get).call
  if names.isEmpty then
    call.environment.forM fun (name, value) ↦ print (name ++ "=" ++ value ++ ending)
    return 0
  onEach names fun name ↦ do
    match call.value? name with
    | some value =>
      print (value ++ ending)
      return true
    | none => return false

/-- Nothing may stand behind the options. -/
def noOperands (operands : List String) : ToolM Unit := do
  if let some first := operands.head? then misuse 1 s!"extra operand ‘{first}’"

/-- Shows the name of the user. -/
def whoami : Tool := do
  noOperands (← options (OptionTable.make "" [] true) 1).2
  printLine "root"
  return 0

/-- Shows who the user is. -/
def id : Tool := do
  let (given, _) ← options (OptionTable.make "Ggnruz" [("user", 'u'), ("group", 'g'),
    ("groups", 'G'), ("name", 'n'), ("real", 'r')] true) 1
  printLine <|
    if given.isEmpty then "uid=0(root) gid=0(root) groups=0(root)"
    else if given.has 'n' then "root" else "0"
  return 0

/-- Shows what the system is. -/
def uname : Tool := do
  let table := OptionTable.make "asnrvmpio" [("all", 'a'), ("kernel-name", 's'), ("nodename", 'n'),
    ("kernel-release", 'r'), ("kernel-version", 'v'), ("machine", 'm'), ("operating-system", 'o')]
    true
  let (given, operands) ← options table 1
  noOperands operands
  let parts := [('s', "Linux"), ('n', "localhost"), ('r', "6.1.0"), ('v', "#1 SMP"),
    ('m', "x86_64"), ('o', "GNU/Linux")]
  let asked := if given.isEmpty then [('s', none)] else given
  printLine (" ".intercalate ((parts.filter fun p ↦
    asked.any fun o ↦ o.1 = 'a' || o.1 = p.1).map Prod.snd))
  return 0

/-- Prints what is known of the machine or of whoever uses it, if it is anything. -/
def known (text : Option String) : Tool := do
  noOperands (← options (OptionTable.make "" [] true) 1).2
  match text with
  | some text => printLine text
  | none => return 0
  return 0

/-- Shows what the machine is. -/
def arch : Tool := known (some "x86_64")

/-- Shows the name of the machine. -/
def hostname : Tool := known (some "localhost")

/-- Nobody is at the machine. -/
def users : Tool := known none

/-- Nobody has logged in. -/
def logname : Tool := do
  noOperands (← options (OptionTable.make "" [] true) 1).2
  abort 1 "no login name"

/-- Shows how many processors there are. -/
def nproc : Tool := do
  let table := { OptionTable.make "" [] true with
    names := [("all", 'a', .never), ("ignore", 'i', .always)] }
  let (given, operands) ← options table 1
  noOperands operands
  let ignored := Text.readDecimal ((given.value? 'i').getD "0").toList
  printLine (toString (max 1 (4 - ignored)))
  return 0

/-- Shows the groups of users. -/
def groups : Tool := do
  let (_, operands) ← options (OptionTable.make "" [] true) 1
  if operands.isEmpty then printLine "root"
  onEach operands fun user ↦ do
    if user = "root" then
      printLine "root : root"
      return true
    flush
    complain s!"‘{user}’: no such user"
    return false

/-! ## Tests -/

/-- Answers a question with its status. -/
def testWith (question : List String → Shell.Answer Bool) : Tool := do
  let arguments := (← get).call.arguments
  match ← act (question arguments).run with
  | .ok value => return if value then 0 else 1
  | .error fault =>
    complain fault.plainMessage
    return 2

end RevisionGraph.Tools
