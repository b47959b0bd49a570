import RevisionGraph.Files.Tree
import RevisionGraph.Number.Decimal

/-!
# Commands and their outcomes

A `Command` is what is to run, where, and for how long at most.  Its `Outcome` is how it ended and
the ends of what it wrote; `Outcome.check` is the reading of an outcome as success or failure.

A `Site` is what a command runs in: the files, and a state of whatever runs it.  A `Runner` is any
way to run commands there.
-/

set_option autoImplicit false

namespace RevisionGraph

/-- A time span as it was given, in seconds. -/
inductive Seconds where
  | whole (n : Int)
  | fractional (x : Binary64)
  deriving DecidableEq, Repr

namespace Seconds

/-- The seconds as a number. -/
def toBinary : Seconds → Binary64
  | .whole n => .ofInt n
  | .fractional x => x

/-- The seconds as they are shown. -/
def text : Seconds → String
  | .whole n => toString n
  | .fractional x => numberLayout.write x

end Seconds

namespace Engine

/-- The words of a command, where it runs, and for how long at most. -/
structure Command where
  words : List String
  directory : Path
  timeout : Seconds
  deriving DecidableEq

/-- What became of a command that ran. -/
structure Outcome where
  exitCode : Int
  /-- the end of what was written to the standard output -/
  output : String
  /-- the end of what was written to the standard error output -/
  errors : String
  elapsed : Binary64
  timedOut : Bool
  deriving DecidableEq

/-- The first word of a command, as messages name it. -/
def firstWord : List String → Result String
  | [] => .error (.conversion .noFirstWord)
  | word :: _ => .ok word

/-- A command must end in time and with exit code zero. -/
def Outcome.check (o : Outcome) (words : List String) : Result Unit :=
  if o.timedOut then do
    throw (.commandTimedOut o.elapsed.roundedText (← firstWord words))
  else if o.exitCode ≠ 0 then do
    throw (.commandFailed o.exitCode (← firstWord words) o.errors)
  else .ok ()

/-- The files that a command sees and the state of what runs it. -/
structure Site (σ : Type) where
  files : FileTree
  state : σ

/-- A way to run commands. -/
abbrev Runner (σ : Type) := Site σ → Command → Site σ × Result Outcome

end Engine

end RevisionGraph
