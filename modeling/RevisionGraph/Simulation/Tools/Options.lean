import RevisionGraph.Simulation.Tools.Basic

/-!
# Options

`Options.read` splits the arguments of a tool into options and operands.  An option is a letter
behind a hyphen, or a name behind two; it may have a value, in the same argument or in the next one.
Names may be cut short as long as only one option is meant.
-/

set_option autoImplicit false

namespace RevisionGraph.Tools

/-- Whether an option has a value. -/
inductive Valued where
  | never
  | always
  /-- only one in the same argument counts -/
  | perhaps
  deriving DecidableEq, Repr

/-- The options that a tool knows.  A long name stands for a letter. -/
structure OptionTable where
  letters : List (Char × Valued)
  names : List (String × Char × Valued) := []
  /-- options may stand behind operands -/
  mixed : Bool := true

/-- Options that were given, each with its value if it has one. -/
abbrev Given := List (Char × Option String)

namespace Given

/-- The option is given. -/
def has (g : Given) (letter : Char) : Bool := g.any (·.1 == letter)

/-- The value of the last option of a letter. -/
def value? (g : Given) (letter : Char) : Option String :=
  (g.reverse.find? fun o ↦ o.1 == letter).bind Prod.snd

/-- The values that the option is given. -/
def values (g : Given) (letter : Char) : List String :=
  g.filterMap fun o ↦ if o.1 = letter then o.2 else none

/-- The last option among some letters. -/
def lastOf (g : Given) (letters : List Char) : Option Char :=
  (g.reverse.find? fun o ↦ letters.contains o.1).map Prod.fst

end Given

namespace OptionTable

/-- A table from letters, a colon behind each that has a value and two behind one that may have. -/
def lettersOf : List Char → List (Char × Valued)
  | c :: ':' :: ':' :: rest => (c, .perhaps) :: lettersOf rest
  | c :: ':' :: rest => (c, .always) :: lettersOf rest
  | c :: rest => (c, .never) :: lettersOf rest
  | [] => []

/-- A table from letters and names; a name has a value if the letter that it stands for has. -/
def make (letters : String) (names : List (String × Char)) (mixed : Bool) : OptionTable :=
  let letters := lettersOf letters.toList
  { letters, mixed
    names := names.map fun (name, letter) ↦
      (name, letter, ((letters.find? (·.1 == letter)).map Prod.snd).getD .never) }

/-- The options behind one hyphen; with them what is left of the other arguments. -/
def readLetters (t : OptionTable) : List Char → List String → Except String (Given × List String)
  | [], rest => .ok ([], rest)
  | c :: more, rest =>
    match (t.letters.find? (·.1 == c)).map Prod.snd with
    | none => .error s!"invalid option -- '{c}'"
    | some .never => do
      let (given, rest) ← readLetters t more rest
      return ((c, none) :: given, rest)
    | some .perhaps =>
      .ok ([(c, if more.isEmpty then none else some (String.ofList more))], rest)
    | some .always =>
      match more, rest with
      | _ :: _, rest => .ok ([(c, some (String.ofList more))], rest)
      | [], value :: rest => .ok ([(c, some value)], rest)
      | [], [] => .error s!"option requires an argument -- '{c}'"

/-- The option behind two hyphens; with it what is left of the other arguments. -/
def readName (t : OptionTable) (argument : String) (rest : List String) :
    Except String (Given × List String) :=
  let body := argument.toList.drop 2
  let name := String.ofList (body.takeWhile (· != '='))
  let value := if name.length = body.length then none
    else some (String.ofList (body.drop (name.length + 1)))
  let candidates := t.names.filter fun n ↦ name.toList.isPrefixOf n.1.toList
  let found := match candidates.find? (·.1 == name) with
    | some n => [n]
    | none => candidates
  match found with
  | [] => .error s!"unrecognized option '{argument}'"
  | (full, letter, valued) :: others =>
    if others.any fun o ↦ o.2.1 != letter then
      let all := String.join (found.map fun n ↦ " '--" ++ n.1 ++ "'")
      .error s!"option '--{name}' is ambiguous; possibilities:{all}"
    else match valued, value, rest with
      | .never, some _, _ => .error s!"option '--{full}' doesn't allow an argument"
      | .always, none, [] => .error s!"option '--{full}' requires an argument"
      | .always, none, value :: rest => .ok ([(letter, some value)], rest)
      | _, value, rest => .ok ([(letter, value)], rest)

/-- Splits arguments into options and operands; the bound is on the number of arguments. -/
def readFor (t : OptionTable) : Nat → List String → Except String (Given × List String)
  | 0, rest => .ok ([], rest)
  | _ + 1, [] => .ok ([], [])
  | n + 1, argument :: rest =>
    if argument = "--" then .ok ([], rest)
    else if argument.startsWith "--" then do
      let (first, rest) ← t.readName argument rest
      let (given, operands) ← t.readFor n rest
      return (first ++ given, operands)
    else match argument.toList with
      | '-' :: c :: more => do
        let (first, rest) ← t.readLetters (c :: more) rest
        let (given, operands) ← t.readFor n rest
        return (first ++ given, operands)
      | _ =>
        if !t.mixed then .ok ([], argument :: rest)
        else do
          let (given, operands) ← t.readFor n rest
          return (given, argument :: operands)

end OptionTable

namespace ToolM

/-- The options and the operands of the tool; what it does not know ends it with a status. -/
def options (t : OptionTable) (status : Nat) : ToolM (Given × List String) := do
  let arguments := (← get).call.arguments
  match t.readFor (arguments.length + 1) arguments with
  | .ok answer => return answer
  | .error why => misuse status why

end ToolM

end RevisionGraph.Tools
