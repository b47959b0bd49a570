import RevisionGraph.Engine.Command
import RevisionGraph.Text.Lines

/-!
# Running a command to its end

`collect` turns the bytes that a process wrote into an outcome.  A process that ended in time must
have written UTF-8, whose line ends are read as line feeds; of one that was stopped whatever came
out is read as far as possible and left as it is.  Of both outputs the last characters are kept,
and on request the whole goes into a log file.
-/

set_option autoImplicit false

namespace RevisionGraph.Execution

/-- How a process ended. -/
inductive Ending where
  | exited (code : Int)
  | stopped
  deriving DecidableEq, Repr

/-- What a process left behind. -/
structure Remains where
  output : Text.Bytes
  errors : Text.Bytes
  ending : Ending
  elapsed : Binary64

/-- What is wanted from a run besides its outcome. -/
structure Options where
  /-- how many characters of each output to keep -/
  tailLength : Int := 2000
  /-- where to write both outputs in full -/
  log : Option Path := none

/-- The text of an output of a process that ended by itself. -/
def strictText (bytes : Text.Bytes) : Result String :=
  match Text.Utf8.decode bytes with
  | .ok cs => .ok (Text.normalise (String.ofList cs))
  | .error e =>
    .error (.conversion (.undecodable
      ⟨.utf8, (bytes.drop e.start).headD 0, e.start, e.width, e.cause⟩))

/-- Both outputs as texts. -/
def Remains.texts (r : Remains) : Result (String × String) :=
  match r.ending with
  | .exited _ => do return (← strictText r.output, ← strictText r.errors)
  | .stopped => .ok (Text.Utf8.decodeLenient r.output, Text.Utf8.decodeLenient r.errors)

/-- The outcome of a process whose outputs are these texts. -/
def Remains.outcome (r : Remains) (tailLength : Int) (output errors : String) : Engine.Outcome where
  exitCode := match r.ending with
    | .exited code => code
    | .stopped => -1
  output := Text.tail tailLength output
  errors := Text.tail tailLength errors
  elapsed := r.elapsed
  timedOut := r.ending = .stopped

/-! ## The log -/

/-- Seconds with two places, ties to even. -/
def twoPlaces (x : Binary64) : String :=
  match x.toFraction? with
  | some (num, den) =>
    let hundredths := roundDiv (100 * num.natAbs) den
    let fraction := toString (hundredths % 100)
    toString (hundredths / 100) ++ "." ++ (if fraction.length < 2 then "0" else "") ++ fraction
  | none => numberLayout.write x

/-- What a log says of how a command ended. -/
def Ending.text (timeout : Seconds) : Ending → String
  | .exited code => s!"Exit code: {code}"
  | .stopped => "TIMEOUT after " ++ timeout.text ++ "s"

/-- The log of a command. -/
def logText (command : Engine.Command) (r : Remains) (output errors : String) : String :=
  "Command: " ++ " ".intercalate command.words ++ "\n" ++
    r.ending.text command.timeout ++ "\n" ++
    "Duration: " ++ twoPlaces r.elapsed ++ "s\n" ++
    "\n--- STDOUT ---\n" ++ output ++ "\n--- STDERR ---\n" ++ errors

/-- Writes a text file and makes the directories that lead to it. -/
def writeLog (files : FileTree) (cwd : Place) (path : Path) (text : String) : Result FileTree :=
  match files.makeDirectories cwd path.parent with
  | (_, some fault) => .error (.file fault)
  | (files, none) => match files.write cwd path (Text.Utf8.encode text) with
    | .ok files => .ok files
    | .error cause => .error (.file ⟨cause, path.toText⟩)

/-! ## The outcome -/

/-- The outcome of a process, with its log written. -/
def collect (options : Options) (cwd : Place) (command : Engine.Command) (files : FileTree)
    (r : Remains) : FileTree × Result Engine.Outcome :=
  match r.texts with
  | .error e => (files, .error e)
  | .ok (output, errors) =>
    let outcome := r.outcome options.tailLength output errors
    match options.log with
    | none => (files, .ok outcome)
    | some path => match writeLog files cwd path (logText command r output errors) with
      | .ok files => (files, .ok outcome)
      | .error e => (files, .error e)

end RevisionGraph.Execution
