import RevisionGraph.Engine.Producer

/-!
# Arguments of the command line

The worker takes switches.  Those with a value take it from behind an equals sign or from the next
word, which must not look like a switch; a long switch can be shortened as long as it stays clear
which one is meant.  Nothing else is taken, and the output must be named.

* **Words.**  `readWord` says what a word is.  A lone dash, a negative number and a word with a
  space in it are plain words; so is everything behind two dashes.
* **Requests.**  `Request.ofWords` is what is asked for: help, or a run with its arguments.
* **Mistakes.**  `UsageFault.message` words what is wrong.  Of several mistakes the one in the
  foremost word counts, then an output that lacks, then words that nobody takes; but an ambiguous
  switch comes before everything.
-/

set_option autoImplicit false

namespace RevisionGraph.Worker

/-! ## Switches -/

/-- What can be asked for on a command line. -/
inductive Switch where
  | help
  | input
  | output
  | generator
  | verbose
  deriving DecidableEq, Repr

namespace Switch

/-- Every spelling of a switch. -/
def spellings : List (String × Switch) := [
  ("-h", .help), ("--help", .help), ("--input", .input), ("--output", .output),
  ("--generator", .generator), ("--verbose", .verbose)]

/-- The switch that is spelled so. -/
def ofSpelling? (s : String) : Option Switch :=
  (spellings.find? fun e ↦ e.1 == s).map Prod.snd

/-- The name of a switch in messages. -/
def label : Switch → String
  | .help => "-h/--help"
  | .input => "--input"
  | .output => "--output"
  | .generator => "--generator"
  | .verbose => "--verbose"

/-- A value follows the switch. -/
def takesValue : Switch → Bool
  | .help | .verbose => false
  | .input | .output | .generator => true

end Switch

/-! ## Mistakes -/

/-- What is wrong with a command line. -/
inductive UsageFault where
  | ambiguous (word : String) (candidates : List String)
  | valueMissing (s : Switch)
  | valueUnwanted (s : Switch) (value : String)
  | generatorUnknown (value : String)
  | outputMissing
  | wordsUnwanted (words : List String)
  deriving DecidableEq, Repr

namespace UsageFault

/-- What is said of it. -/
def message : UsageFault → String
  | .ambiguous word candidates =>
    "ambiguous option: " ++ word ++ " could match " ++ ", ".intercalate candidates
  | .valueMissing s => "argument " ++ s.label ++ ": expected one argument"
  | .valueUnwanted s value =>
    "argument " ++ s.label ++ ": ignored explicit argument " ++ Text.quoted value
  | .generatorUnknown value =>
    "argument " ++ Switch.generator.label ++ ": invalid choice: " ++ Text.quoted value ++
      " (choose from " ++ ", ".intercalate (EngineProducer.generators.map Text.quoted) ++ ")"
  | .outputMissing => "the following arguments are required: " ++ Switch.output.label
  | .wordsUnwanted words => "unrecognized arguments: " ++ " ".intercalate words

end UsageFault

/-! ## Words -/

/-- What a word is. -/
inductive Word where
  | plain (text : String)
  /-- two dashes -/
  | separator
  | switch (s : Switch) (value : Option String)
  /-- looks like a switch and is none -/
  | unknown (text : String)
  deriving DecidableEq, Repr

/-- The word without its dash is a number in digits, perhaps with a point; a line feed may follow.
-/
def isNumber (cs : List Char) : Bool :=
  let cs := if cs.getLast? = some '\n' then cs.dropLast else cs
  let isDigit (c : Char) := (Text.digitValue? c).isSome
  let digits := match (cs.dropWhile isDigit) with
    | '.' :: rest => rest
    | _ => cs
  !digits.isEmpty && digits.all isDigit

/-- What stands before the first equals sign, and what behind it if there is one. -/
def cutAtEquals (s : String) : String × Option String :=
  let cs := s.toList
  let before := cs.takeWhile (· != '=')
  match cs.drop before.length with
  | _ :: after => (String.ofList before, some (String.ofList after))
  | [] => (s, none)

/-- The help switch with something stuck to it: repetitions of the letter are taken for the switch
again, and what is left is a value, which nothing wants. -/
def readStuck (stuck : List Char) : Word :=
  let value := stuck.dropWhile (· == 'h')
  .switch .help (if value.isEmpty && !stuck.isEmpty then none else some (String.ofList value))

/-- What a word is that starts with a dash and is no spelling of a switch. -/
def readDashed (word : String) (rest : List Char) : Except UsageFault Word :=
  let (name, value) := cutAtEquals word
  match Switch.ofSpelling? name, value, rest with
  | some s, some value, _ =>
    .ok (if rest.head? = some 'h' then readStuck value.toList else .switch s (some value))
  | _, _, 'h' :: stuck => .ok (readStuck stuck)
  | _, _, _ =>
    let candidates :=
      if rest.head? = some '-' then
        Switch.spellings.filter fun e ↦ name.toList.isPrefixOf e.1.toList
      else []
    match candidates with
    | [(_, s)] => .ok (.switch s value)
    | [] =>
      if isNumber rest || word.toList.contains ' ' then .ok (.plain word) else .ok (.unknown word)
    | _ => .error (.ambiguous word (candidates.map Prod.fst))

/-- What a word is before two dashes have been seen. -/
def readWord (word : String) : Except UsageFault Word :=
  if word = "--" then .ok .separator
  else match Switch.ofSpelling? word, word.toList with
    | some s, _ => .ok (.switch s none)
    | none, '-' :: c :: rest => readDashed word (c :: rest)
    | none, _ => .ok (.plain word)

/-- What the words are. -/
def readWords : List String → Except UsageFault (List Word)
  | [] => .ok []
  | word :: rest => do
    match ← readWord word with
    | .separator => return .separator :: rest.map Word.plain
    | w => return w :: (← readWords rest)

/-! ## Requests -/

/-- What a command line asks a run for. -/
structure Arguments where
  /-- where records come from, if not from the standard input -/
  input : Option Path
  /-- where call graphs go; nothing if two dashes stood in its place -/
  output : Option Path
  /-- the generator, if not the one of the settings -/
  generator : Option String
  verbose : Bool
  deriving DecidableEq

/-- What a command line asks for. -/
inductive Request where
  | help
  | run (a : Arguments)
  deriving DecidableEq

/-- What the words so far amount to. -/
structure Gathered where
  input : Option Path := none
  /-- the value of the last switch for it, if there was one -/
  output : Option (Option Path) := none
  generator : Option String := none
  verbose : Bool := false
  /-- words that nobody takes -/
  unwanted : List String := []

namespace Gathered

/-- Keeps a word that nothing asks for. -/
def reject (g : Gathered) (word : String) : Gathered := { g with unwanted := g.unwanted ++ [word] }

/-- Takes the value of a switch. -/
def take (g : Gathered) (value : String) : Switch → Except UsageFault Gathered
  | .input => .ok { g with input := some (.ofText value) }
  | .output => .ok { g with output := some (some (.ofText value)) }
  | .generator =>
    if EngineProducer.generators.contains value then .ok { g with generator := some value }
    else .error (.generatorUnknown value)
  | .help | .verbose => .ok g

/-- Takes a switch whose value is two dashes: it is given, and without a value. -/
def takeNothing (g : Gathered) : Switch → Gathered
  | .input => { g with input := none }
  | .output => { g with output := some none }
  | .generator => { g with generator := none }
  | .help | .verbose => g

/-- What is asked for when all words are read. -/
def finish (g : Gathered) : Except UsageFault Request :=
  match g.output with
  | none => .error .outputMissing
  | some output =>
    if g.unwanted.isEmpty then
      .ok (.run { input := g.input, output, generator := g.generator, verbose := g.verbose })
    else .error (.wordsUnwanted g.unwanted)

/-- Goes through the words one by one. -/
def gather (g : Gathered) : List Word → Except UsageFault Request
  | [] => g.finish
  | .plain text :: rest => (g.reject text).gather rest
  | .unknown text :: rest => (g.reject text).gather rest
  | .separator :: rest => (g.reject "--").gather rest
  | .switch s (some value) :: rest => do
    if !s.takesValue then throw (.valueUnwanted s value)
    else if value = "--" then (g.takeNothing s).gather rest
    else (← g.take value s).gather rest
  | .switch .help none :: _ => .ok .help
  | .switch .verbose none :: rest => { g with verbose := true }.gather rest
  | .switch s none :: .plain value :: rest => do (← g.take value s).gather rest
  | .switch s none :: _ => .error (.valueMissing s)

end Gathered

/-- What is asked for. -/
def Request.ofWords (words : List String) : Except UsageFault Request := do
  Gathered.gather {} (← readWords words)

/-! ## What the program says -/

/-- How messages name the program. -/
def programName : String := "callgraph-worker"

/-- The line about a mistake. -/
def UsageFault.line (e : UsageFault) : String := programName ++ ": error: " ++ e.message

/-- How the program is called. -/
def usage : String :=
  "usage: " ++ programName ++ " [-h] [--input INPUT] --output OUTPUT\n" ++
    "                        [--generator \x7bOPAL,WALA\x7d] [--verbose]\n"

/-- What the program does and which switches it takes. -/
def help : String :=
  usage ++ "\nGenerate and publish call graphs for Maven coordinates\n\noptions:\n" ++
    "  -h, --help            show this help message and exit\n" ++
    "  --input INPUT         JSON lines file with coordinate records (default: stdin)\n" ++
    "  --output OUTPUT       JSON lines file receiving published call graphs\n" ++
    "  --generator \x7bOPAL,WALA\x7d\n" ++
    "                        Call graph generator (default: from settings)\n" ++
    "  --verbose             Enable debug logging\n"

end RevisionGraph.Worker
