import RevisionGraph.Simulation.Files.Rights
import RevisionGraph.Simulation.Shell.Arithmetic
import RevisionGraph.Simulation.Shell.Fields
import RevisionGraph.Simulation.Shell.Printf
import RevisionGraph.Simulation.Shell.State
import RevisionGraph.Simulation.Shell.Test

/-!
# Commands of the shell

What a shell does by itself and without running anything: it prints, sets variables, switches,
aliases and traps, goes to directories, reads lines and options, and finds programs.

A `Builtin` is a function from arguments to a step that gives a status.
-/

set_option autoImplicit false

namespace RevisionGraph.Shell

open RevisionGraph.System
open ShellM

/-- A command that the shell runs itself. -/
abbrev Builtin := List String → ShellM Nat

/-! ## Arguments -/

/-- The number that an argument is. -/
def numberOf (s : String) : ShellM Nat := do
  match (Arithmetic.ofText? s).map Int64.toInt with
  | some i =>
    let digits := s.toList.filter fun c ↦ !Arithmetic.isBlank c && c != '+'
    let n := Nat.ofDigitChars 10 digits 0
    if !digits.isEmpty && digits.all Char.isDigit && 0 ≤ i && n < 2 ^ 31 then return n
    else abort s!"Illegal number: {s}"
  | none =>
    let digits := (s.toList.dropWhile Arithmetic.isBlank)
    let n := Nat.ofDigitChars 10 digits 0
    if !digits.isEmpty && digits.all Char.isDigit && n < 2 ^ 31 then return n
    abort s!"Illegal number: {s}"

/-- The option letters at the front of the arguments of a command of the shell, each with its own
argument where it takes one; a letter that it does not know ends the command. -/
def takeOptions (known withArgument : List Char) :
    List String → ShellM (List (Char × String) × List String)
  | [] => return ([], [])
  | "--" :: rest => return ([], rest)
  | word :: rest => do
    match word.toList with
    | '-' :: first :: more =>
      let letters := first :: more
      let plain := letters.takeWhile known.contains
      match letters.drop plain.length with
      | [] =>
        let (options, operands) ← takeOptions known withArgument rest
        return (plain.map (·, "") ++ options, operands)
      | c :: value =>
        if !withArgument.contains c then abort s!"Illegal option -{c}"
        match value, rest with
        | _ :: _, rest =>
          let (options, operands) ← takeOptions known withArgument rest
          return (plain.map (·, "") ++ (c, String.ofList value) :: options, operands)
        | [], value :: rest =>
          let (options, operands) ← takeOptions known withArgument rest
          return (plain.map (·, "") ++ (c, value) :: options, operands)
        | [], [] => abort s!"No arg for -{c} option"
    | _ => return ([], word :: rest)

/-- The option letters at the front of arguments, and the operands. -/
def takeLetters (known : List Char) (arguments : List String) :
    ShellM (List Char × List String) := do
  let (options, operands) ← takeOptions known [] arguments
  return (options.map Prod.fst, operands)

/-- A text in quotes, from which a shell reads it back; the bound is on the number of its parts. -/
def quotedFor : Nat → List Char → List Char
  | 0, cs => cs
  | n + 1, cs =>
    let plain := cs.takeWhile (· ≠ '\x27')
    let rest := cs.drop plain.length
    let quotes := rest.takeWhile (· = '\x27')
    let more := rest.drop quotes.length
    ['\x27'] ++ plain ++ ['\x27'] ++
      (if quotes.isEmpty then [] else ['"'] ++ quotes ++ ['"']) ++
      (if more.isEmpty then [] else quotedFor n more)

/-- A text in quotes that a shell reads back. -/
def quoted (text : String) : String := String.ofList (quotedFor (text.length + 1) text.toList)

/-- Texts in their order. -/
def sortedTexts (texts : List String) : List String :=
  texts.mergeSort fun a b ↦ (compare a b).isLE

/-! ## Printing -/

/-- Writes its arguments. -/
def echo : Builtin := fun arguments ↦ do
  let (newline, words) := match arguments with
    | "-n" :: rest => (false, rest)
    | rest => (true, rest)
  let (bytes, whole) := Printf.expand (" ".intercalate words)
  print (Text.Octets.ofBytes (if newline && whole then bytes ++ [10] else bytes))
  return 0

/-- Writes its arguments in a layout. -/
def printf : Builtin := fun arguments ↦ do
  match (← takeLetters [] arguments).2 with
  | [] => abort "usage: printf format [arg ...]"
  | layout :: arguments =>
    let printed := Printf.format layout arguments
    print (Text.Octets.ofBytes printed.bytes)
    printed.problems.forM fun p ↦ warn s!"{p.1}: {p.2}"
    if let some why := printed.fault then abort why
    return if printed.problems.isEmpty then 0 else 1

/-- Tests, whose words may stand in brackets. -/
def testWith (question : List String → Answer Bool) : Builtin := fun arguments ↦ do
  match ← act (question arguments).run with
  | .ok value => return if value then 0 else 1
  | .error fault =>
    warn fault.message
    return 2

/-! ## Variables -/

/-- The name at the start of an assignment. -/
def nameIn (argument : String) : String := String.ofList (argument.toList.takeWhile (· != '='))

/-- The value in an assignment. -/
def valueIn? (argument : String) : Option String :=
  let name := nameIn argument
  if name.length = argument.length then none
  else some (String.ofList (argument.toList.drop (name.length + 1)))

/-- A line that shows a variable with its value. -/
def variableLine (start name : String) (v : Variable) : String :=
  start ++ name ++ v.value.elim "" (fun value ↦ "=" ++ quoted value) ++ "\n"

/-- Marks variables, or lists those with the mark where none is named. -/
def mark (word : String) (marked : Variable → Bool) (set : Variable → Variable) : Builtin :=
    fun arguments ↦ do
  let (letters, names) ← takeLetters ['p'] arguments
  if names.isEmpty || letters.contains 'p' then
    let lines := (← get).held.entries.filterMap fun (name, v) ↦
      if marked v then some (variableLine (word ++ " ") name v) else none
    print (String.join (sortedTexts lines))
  else names.forM fun a ↦ do
    let name := nameIn a
    checkName name
    if let some value := valueIn? a then setVariable name value
    modifyVariable name set
  return 0

/-- Hides variables, or the switches, as long as a function runs. -/
def makeLocal : Builtin := fun arguments ↦ do
  if (← get).hidden.isEmpty then abort "not in a function"
  let (_, names) ← if arguments.head? = some "-" then pure ([], arguments)
    else takeLetters [] arguments
  names.forM fun a ↦ do
    if a = "-" then hide (.switches (← get).switches)
    else
      let name := nameIn a
      checkName name
      hideVariable name
      match valueIn? a with
      | some value => setVariable name value
      | none => modifyVariable name id
  return 0

/-- Gives variables or functions up. -/
def unset : Builtin := fun arguments ↦ do
  let (letters, names) ← takeLetters ['f', 'v'] arguments
  names.forM fun name ↦ do
    if letters.getLast? = some 'f' then
      modify fun s ↦ { s with functions := s.functions.filter (·.1 != name) }
    else
      checkName name
      removeVariable name
  return 0

/-- Drops arguments of the shell. -/
def shift : Builtin := fun arguments ↦ do
  let count ← match arguments with
    | [] => pure 1
    | count :: _ => numberOf count
  if (← get).arguments.length < count then abort "can't shift that many"
  modify fun s ↦ { s with
    arguments := s.arguments.drop count, optionIndex := 1, letterIndex := none }
  return 0

/-- Turns switches and sets the arguments, as arguments say; without any it shows all variables. -/
def setSwitches : Builtin := fun arguments ↦ do
  if arguments.isEmpty then
    let lines := (← get).held.entries.filterMap fun (name, v) ↦
      if v.value.isSome then some (variableLine "" name v) else none
    print (String.join (sortedTexts lines))
    return 0
  match Selection.read false arguments with
  | .error why => abort why
  | .ok chosen =>
    let s ← get
    let on := Switch.turn s.switches chosen.switches
    chosen.switches.forM fun
      | .listed asTable => print (Switch.listing on asTable)
      | _ => return
    modify fun s ↦ { s with
      switches := on.filter fun c ↦ chosen.closed ≠ some "-" || (c ≠ 'x' && c ≠ 'v') }
    if !chosen.operands.isEmpty || chosen.closed = some "--" then
      modify fun s ↦ { s with
        arguments := chosen.operands, optionIndex := 1, letterIndex := none }
    return 0

/-! ## Options -/

/-- Where the reading of options stands: the letters that are left of the last argument read. -/
def lettersLeft (arguments : List String) (s : State) : List Char :=
  match s.letterIndex with
  | some i => if 1 < s.optionIndex then
      ((arguments[s.optionIndex - 2]?).getD "").toList.drop i else []
  | none => []

/-- Reads the next option of arguments. -/
def getopts : Builtin := fun arguments ↦ do
  let (_, operands) ← takeLetters [] arguments
  match operands with
  | known :: name :: given =>
    let s ← get
    let arguments := if given.isEmpty then s.arguments else given
    let s := if arguments.length + 1 < s.optionIndex then
      { s with optionIndex := 1, letterIndex := none } else s
    let (letters, index) : Option (List Char) × Nat := match lettersLeft arguments s with
      | [] => match (arguments[s.optionIndex - 1]?).map String.toList with
        | some ['-', '-'] => (none, s.optionIndex + 1)
        | some ('-' :: c :: more) => (some (c :: more), s.optionIndex + 1)
        | _ => (none, s.optionIndex)
      | left => (some left, s.optionIndex)
    let finish (value : String) (index : Nat) (left : List Char) : ShellM Unit := do
      setVariable "OPTIND" (toString index)
      setVariable name value
      let length := ((arguments[index - 2]?).getD "").length
      modify fun s ↦ { s with
        optionIndex := index
        letterIndex := if left.isEmpty then none else some (length - left.length) }
    match letters with
    | none | some [] =>
      finish "?" index []
      return 1
    | some (c :: left) =>
      let silent := known.toList.head? = some ':'
      let after := known.toList.dropWhile (· != c)
      if c = ':' || after.isEmpty then
        if silent then setVariable "OPTARG" (String.singleton c)
        else
          complain s!"Illegal option -{c}"
          removeVariable "OPTARG"
        finish "?" index left
      else if after[1]? != some ':' then
        setVariable "OPTARG" ""
        finish (String.singleton c) index left
      else if !left.isEmpty then
        setVariable "OPTARG" (String.ofList left)
        finish (String.singleton c) index []
      else match arguments[index - 1]? with
        | some value =>
          setVariable "OPTARG" value
          finish (String.singleton c) (index + 1) []
        | none =>
          if silent then
            setVariable "OPTARG" (String.singleton c)
            finish ":" index []
          else
            complain s!"No arg for -{c} option"
            removeVariable "OPTARG"
            finish "?" index []
      return 0
  | _ => abort "Usage: getopts optstring var [arg...]"

/-! ## Aliases -/

/-- An alias on a line. -/
def aliasLine (a : String × String) : String := a.1 ++ "=" ++ quoted a.2 ++ "\n"

/-- Makes aliases, or shows them. -/
def makeAliases : Builtin := fun arguments ↦ do
  if arguments.isEmpty then
    let sorted := (← get).aliases.mergeSort fun a b ↦ bucket a.1 ≤ bucket b.1
    print (String.join (sorted.map aliasLine))
    return 0
  let one (status : Nat) (argument : String) : ShellM Nat := do
    -- an equals sign at the start is part of the name
    let rest := argument.toList.drop 1
    let name := String.ofList (argument.toList.take 1 ++ rest.takeWhile (· != '='))
    let known := (← get).aliases
    if name.length = argument.length then
      match known.find? (·.1 == name) with
      | some a =>
        print (aliasLine a)
        return status
      | none =>
        complain s!"alias: {name} not found"
        return 1
    else
      let value := String.ofList (argument.toList.drop (name.length + 1))
      let aliases := if known.any (·.1 == name) then
          known.map fun a ↦ if a.1 == name then (name, value) else a
        else known ++ [(name, value)]
      modify fun s ↦ { s with aliases }
      return status
  arguments.foldlM one 0

/-- Removes aliases. -/
def removeAliases : Builtin := fun arguments ↦ do
  let (letters, names) ← takeLetters ['a'] arguments
  if letters.contains 'a' then
    modify fun s ↦ { s with aliases := [] }
    return 0
  let one (status : Nat) (name : String) : ShellM Nat := do
    if (← get).aliases.any (·.1 == name) then
      modify fun s ↦ { s with aliases := s.aliases.filter (·.1 != name) }
      return status
    else
      complain s!"unalias: {name} not found"
      return 1
  names.foldlM one 0

/-! ## Traps -/

/-- What a signal does while a trap is set for it. -/
def dispositionOf : Option String → Disposition
  | none => .usual
  | some "" => .ignored
  | some _ => .noted

/-- The signal that a word means, whatever the case of its letters. -/
def signalOf? (word : String) : Option Nat := Signal.ofText? (word.map Char.toUpper)

/-- Changes what runs on signals and at the end, or lists it. -/
def setTraps : Builtin := fun arguments ↦ do
  let (_, operands) ← if arguments.head? = some "-" then pure ([], arguments)
    else takeLetters [] arguments
  let (action, names) := match operands with
    | [] => (none, [])
    | [name] => (none, [name])
    | first :: more =>
      if first.toList.all Char.isDigit && (signalOf? first).isSome then (none, first :: more)
      else if first = "-" then (none, more)
      else (some first, more)
  if operands.isEmpty then
    let sorted := (← get).traps.mergeSort fun a b ↦ a.1 ≤ b.1
    print (String.join (sorted.map fun t ↦ s!"trap -- {quoted t.2} {Signal.nameOf t.1}\n"))
  let one (status : Nat) (name : String) : ShellM Nat := do
    if status != 0 then return status
    match signalOf? name with
    | none =>
      complain s!"trap: {name}: bad trap"
      return 1
    | some signal =>
      let before := (← get).traps.find? (·.1 == signal)
      -- what was ignored from the start stays so
      let locked ← if signal = 0 || before.isSome then pure false
        else do pure ((← ask (.disposition signal)) matches .ignored)
      modify fun s ↦ { s with
        traps := (action.map (signal, ·)).toList ++ s.traps.filter (·.1 != signal) }
      if signal != 0 && !locked then ask (.dispose signal (dispositionOf action))
      return 0
  names.foldlM one 0

/-! ## Directories -/

/-- The path of a directory from another one, as far as the names tell. -/
def logicalPath (current target : String) : String :=
  let names (s : String) := (Text.split '/' s).filter (· != "")
  let start := if target.startsWith "/" then [] else names current
  let all := (names target).foldl (fun (ns : List String) name ↦
    if name = "." then ns else if name = ".." then ns.dropLast else ns ++ [name]) start
  let double := target.startsWith "//" && !target.startsWith "///"
  (if double then "//" else "/") ++ "/".intercalate all

/-- Goes to a directory and remembers where that was; the answer says whether it was possible. -/
def goTo (physical : Bool) (target : String) : ShellM Bool := do
  let s ← get
  let logical := !physical && (target.startsWith "/" || !s.directory.isEmpty)
  let path := if logical then logicalPath s.directory target else target
  match ← ask (.enter path) with
  | .error _ => return false
  | .ok () =>
    let directory ← if logical then pure path else do
      pure (((← ask .directory) : Option String).getD "")
    [("OLDPWD", s.directory), ("PWD", directory)].forM fun v ↦ do
      setVariable v.1 v.2
      exportVariable v.1
    modify fun s ↦ { s with directory, hashed := [] }
    return true

/-- Goes to a directory. -/
def changeDirectory : Builtin := fun arguments ↦ do
  let (letters, operands) ← if arguments.head? = some "-" then pure ([], arguments)
    else takeLetters ['L', 'P'] arguments
  let physical := letters.getLast? = some 'P'
  let previous := operands.head? = some "-"
  let target ← match operands with
    | [] => do pure ((← valueOf? "HOME").getD "")
    | "-" :: _ => do pure ((← valueOf? "OLDPWD").getD "")
    | target :: _ => pure target
  let tell (shown : Bool) : ShellM Nat := do
    if shown then print ((← get).directory ++ "\n")
    return 0
  let isPlain := match target.toList with
    | '/' :: _ => false
    | ['.'] | ['.', '.'] => false
    | '.' :: '/' :: _ | '.' :: '.' :: '/' :: _ => false
    | _ => true
  let wanted := if target.isEmpty then "." else target
  let places ← if isPlain then do
      pure (((← valueOf? "CDPATH").map (Text.split ':')).getD [])
    else pure []
  let fits (place : String) : ShellM Bool := do
    match ← ask (.look (pathIn place wanted) true) with
    | .ok look => return look.kind == .directory
    | .error _ => return false
  match ← places.findM? fits with
  | some place =>
    if ← goTo physical (pathIn place wanted) then return ← tell (previous || !place.isEmpty)
    else abort s!"can't cd to {target}"
  | none =>
    if ← goTo physical (if isPlain then wanted else target) then return ← tell previous
    else abort s!"can't cd to {target}"

/-- Shows the directory. -/
def showDirectory : Builtin := fun arguments ↦ do
  let (letters, _) ← takeLetters ['L', 'P'] arguments
  if letters.getLast? = some 'P' then
    match ← ask .directory with
    | some path => print (path ++ "\n")
    | none => abort "getcwd() failed: No such file or directory"
  else print ((← get).directory ++ "\n")
  return 0

/-! ## The mask of rights -/

/-- Shows or changes the rights that new files do not get. -/
def changeMask : Builtin := fun arguments ↦ do
  let (letters, operands) ← takeLetters ['S'] arguments
  let mask ← ask (.mask none)
  let given := Rights.without 0o777 mask
  match operands with
  | [] =>
    if letters.contains 'S' then
      print (",".intercalate [s!"u={Rights.letters (given / 64)}", s!"g={Rights.letters (given / 8)}",
        s!"o={Rights.letters given}"] ++ "\n")
    else
      let digits := Nat.toDigits 8 mask
      print (String.ofList (List.replicate (4 - digits.length) '0' ++ digits) ++ "\n")
  | mode :: _ =>
    let cs := mode.toList
    if (cs.head?.map Char.isDigit).getD false then
      if !cs.all fun c ↦ '0' ≤ c && c ≤ '7' then abort s!"Illegal number: {mode}"
      let _ ← ask (.mask (some (Nat.ofDigitChars 8 cs 0 % 512)))
    else match ({} : Rights.Change).result? given mode with
      | some rights =>
        let _ ← ask (.mask (some (Rights.without 0o777 rights)))
      | none => abort s!"Illegal mode: {mode}"
  return 0

/-! ## Reading lines -/

/-- The characters at which fields are split. -/
def separators : ShellM (List Char) := do
  return ((← valueOf? "IFS").map String.toList).getD [' ', '\t', '\n']

/-- A line that is being read. -/
structure Line where
  /-- the newest first -/
  spans : List Span := []
  escaped : Bool := false
  /-- the line has come to its end -/
  whole : Bool := false

/-- Adds a character to a line; one behind a backslash does not separate anything. -/
def Line.push (l : Line) (c : Char) : Line :=
  if l.escaped then { l with spans := Span.literal (String.singleton c) :: l.spans, escaped := false }
  else match l.spans with
    | ⟨.atSeparators, cells⟩ :: more =>
      { l with spans := ⟨.atSeparators, .char c true :: cells⟩ :: more }
    | spans => { l with spans := ⟨.atSeparators, [.char c true]⟩ :: spans }

/-- The spans of a line in their order. -/
def Line.finished (l : Line) : List Span :=
  l.spans.reverse.map fun s ↦ { s with cells := s.cells.reverse }

/-- Reads a line byte by byte. -/
def readLine (raw : Bool) : ShellM Line :=
  iterate ({} : Line) fun l ↦ do
    match ← ask (.read 0 1 false) with
    | .error .interrupted =>
      return (l, false)
    | .error _ | .ok [] => return (l, false)
    | .ok (b :: _) =>
      let c := Char.ofNat b.toNat
      if b = 0 then return (l, true)
      else if l.escaped then
        return (if c = '\n' then { l with escaped := false } else l.push c, true)
      else if c = '\\' && !raw then return ({ l with escaped := true }, true)
      else if c = '\n' then return ({ l with whole := true }, false)
      else return (l.push c, true)

/-- Reads a line of the input into variables. -/
def readIntoVariables : Builtin := fun arguments ↦ do
  let (options, names) ← takeOptions ['r'] ['p'] arguments
  if names.isEmpty then abort "arg count"
  let line ← readLine (options.any (·.1 == 'r'))
  let values := (fieldsOf (← separators) (some names.length) line.finished).map Field.text
  let values := values ++ List.replicate names.length ""
  (names.zip values).forM fun v ↦ do
    checkName v.1
    setVariable v.1 v.2
  return if line.whole then 0 else 1

/-! ## Finding programs -/

/-- Commands of the shell that are no part of the language. -/
def regularCommands : List String :=
  ["[", "alias", "bg", "cd", "chdir", "command", "echo", "false", "fg", "getopts", "hash", "jobs",
    "kill", "printf", "pwd", "read", "test", "true", "type", "ulimit", "umask", "unalias", "wait"]

/-- The directories in which a shell looks for programs. -/
def searchPath : ShellM (List String) := do
  return ((← valueOf? "PATH").map (Text.split ':')).getD []

/-- The path of a program, along directories, or why it cannot be run. -/
def findProgram (path : List String) (word : String) : ShellM (Except FileCause String) := do
  let tryNext (found : Except FileCause String) (directory : String) :
      ShellM (Except FileCause String) := do
    if found.toBool then return found
    let candidate := pathIn directory word
    match ← ask (.look candidate true) with
    | .ok look =>
      if look.kind != .file || look.rights &&& rightsOf 1 1 1 = 0 then return .error .permission
      else return .ok candidate
    | .error .notFound | .error .notADirectory => return found
    | .error cause => return .error cause
  path.foldlM tryNext (.error .notFound)

/-- The path of a program, which is remembered. -/
def locateProgram (word : String) : ShellM (Except FileCause String) := do
  match (← get).hashed.find? (·.1 == word) with
  | some (_, path) => return .ok path
  | none =>
    match ← findProgram (← searchPath) word with
    | .ok path =>
      modify fun s ↦ { s with hashed := s.hashed ++ [(word, path)] }
      return .ok path
    | .error cause => return .error cause

/-- Why a program cannot be run, in the words of a shell. -/
def programReason : FileCause → String
  | .notFound | .notADirectory => "not found"
  | cause => cause.errno.2

/-- What a word is, as the shell would find it. -/
inductive Finding where
  | special
  | function (body : Script)
  | regular
  | program (path : String)
  | missing (cause : FileCause)

/-- Finds what a word is. -/
def findCommand (word : String) (functions : Bool) : ShellM Finding := do
  if word.toList.contains '/' then return .program word
  if Reader.specialCommands.contains word then return .special
  let known := (← get).functions
  match if functions then known.find? (·.1 == word) else none with
  | some (_, body) => return .function body
  | none =>
    if regularCommands.contains word then return .regular
    match ← locateProgram word with
    | .ok path => return .program path
    | .error cause => return .missing cause

/-- Shows what a word is: its path or the word itself, or in a sentence. -/
def showFinding (inFull : Bool) (word : String) : ShellM Nat := do
  let s ← get
  let tell (short long : String) : ShellM Nat := do
    print ((if inFull then word ++ long else short) ++ "\n")
    return 0
  if reservedWords.contains word then return ← tell word " is a shell keyword"
  if let some a := s.aliases.find? (·.1 == word) then
    if inFull then return ← tell "" s!" is an alias for {a.2}"
    print ("alias " ++ aliasLine a)
    return 0
  let wasHashed := s.hashed.any (·.1 == word)
  let missing : ShellM Nat := do
    if inFull then print (word ++ ": not found\n")
    return 127
  match ← findCommand word true with
  | .special => tell word " is a special shell builtin"
  | .function _ => tell word " is a shell function"
  | .regular => tell word " is a shell builtin"
  | .program path =>
    if word.toList.contains '/' && ((← ask (.look path true)) matches .error _) then missing
    else tell path ((if wasHashed then " is a tracked alias for " else " is ") ++ path)
  | .missing _ => missing

/-- Shows what words are. -/
def showFindings : Builtin := fun arguments ↦
  arguments.foldlM (fun status word ↦ do return status ||| (← showFinding true word)) 0

/-- How many buckets a shell keeps the places of programs in. -/
def hashBuckets : Nat := 31

/-- The bucket of a name in the table of programs. -/
def hashBucket (name : String) : Nat :=
  let bytes := (Text.Octets.toBytes name).map UInt8.toNat
  (16 * bytes.headD 0 + bytes.sum) % hashBuckets

/-- Finds programs beforehand, or shows where those are that were found. -/
def findBeforehand : Builtin := fun arguments ↦ do
  let (letters, names) ← takeLetters ['r', 'v'] arguments
  if letters.contains 'r' then
    modify fun s ↦ { s with hashed := [] }
    return 0
  if names.isEmpty then
    let sorted := (← get).hashed.mergeSort fun a b ↦ hashBucket a.1 ≤ hashBucket b.1
    print (String.join (sorted.map fun e ↦ e.2 ++ "\n"))
    return 0
  let one (status : Nat) (name : String) : ShellM Nat := do
    modify fun s ↦ { s with hashed := s.hashed.filter (·.1 != name) }
    match ← findCommand name true with
    | .missing cause =>
      warn s!"{name}: {programReason cause}"
      return 1
    | _ => return status
  names.foldlM one 0

/-! ## Limits and times -/

/-- What is said of a limit: its letter, its name and how much is allowed. -/
def limits : List (Char × String × String) := [
  ('t', "time(seconds)", "unlimited"), ('f', "file(blocks)", "unlimited"),
  ('d', "data(kbytes)", "unlimited"), ('s', "stack(kbytes)", "8192"),
  ('c', "coredump(blocks)", "0"), ('m', "memory(kbytes)", "unlimited"),
  ('l', "locked memory(kbytes)", "8192"), ('p', "process", "unlimited"),
  ('n', "nofiles", "1048576"), ('v', "vmemory(kbytes)", "unlimited"), ('w', "locks", "unlimited"),
  ('r', "rtprio", "0")]

/-- Shows what limits processes. -/
def showLimits : Builtin := fun arguments ↦ do
  let (letters, values) ← takeLetters ("HSa".toList ++ limits.map Prod.fst) arguments
  let chosen := (letters.filter fun c ↦ c != 'H' && c != 'S').getLast?.getD 'f'
  if chosen = 'a' then
    print (String.join (limits.map fun l ↦
      l.2.1 ++ "".pushn ' ' (20 - l.2.1.length) ++ " " ++ l.2.2 ++ "\n"))
  else if values.isEmpty then
    print (((limits.find? (·.1 == chosen)).map fun l ↦ l.2.2).getD "" ++ "\n")
  return 0

/-- No time is charged to the processes of a shell. -/
def showTimes : Builtin := fun _ ↦ do
  let line := "0m0.000000s 0m0.000000s\n"
  print (line ++ line)
  return 0

end RevisionGraph.Shell
