import RevisionGraph.Worker.Arguments
import RevisionGraph.Worker.Basic

/-!
# A run of the worker

A run reads records line by line, from a file or the standard input, and hands each line that is not
blank to the worker; call graphs are appended to a file.

* **Lines.**  `consumeLines` deals with lines that are there; `consumeFile` with those of a file, up
  to where it ends when it is reached: what is appended to it meanwhile is read too.
* **Endings.**  `Ending` says how a run ended.  One that has gone through all lines finished, even
  if every single record failed; the exit code tells whether any did.
* **The run.**  `run` reads arguments and settings, sets everything up, goes through the lines and
  closes the output.  `runUsing` does so for any producer.

Where settings come from, where the journal is sent and what an engine does are matters of the
`Host`.
-/

set_option autoImplicit false

namespace RevisionGraph

open Telemetry

namespace Worker

variable {σ : Type}

/-! ## Lines -/

/-- How far a run has come. -/
structure Progress (σ : Type) where
  state : State σ
  journal : Journal := []
  processed : Nat := 0
  failed : Nat := 0

/-- Deals with a line, which is skipped if it is blank. -/
def consumeLine (w : Worker σ) (p : Progress σ) (line : String) : Progress σ :=
  if Text.isAllBlank line then p
  else
    let (state, consumption, journal) := w.consume p.state line true
    { state
      journal := p.journal ++ journal
      processed := p.processed + 1
      failed := if consumption.isSuccessful then p.failed else p.failed + 1 }

/-- Deals with lines, one after the other. -/
def consumeLines (w : Worker σ) (p : Progress σ) (lines : List String) : Progress σ :=
  lines.foldl w.consumeLine p

/-- The characters of a text file, with every line end as a line feed; or the lines that are read of
a file before it turns out to be no text, and the fault. -/
def fileText (files : FileTree) (cwd : Place) (path : Path) :
    Except (List String × Fault) (List Char) :=
  if path.hasNul then .error ([], .conversion .nulInWord)
  else match files.read cwd path with
    | .error cause => .error ([], .file ⟨cause, path.toText⟩)
    | .ok bytes => match Text.decodeFile bytes with
      | .ok text => .ok (Text.normaliseChars text.toList)
      | .error e => .error (Text.linesSoFar e.before, .conversion (.undecodable e.cause))

/-- Goes on with a file from a position; `held` is the start of a line that had not ended there.
The bound is on the number of times that the file is looked at. -/
def followFile (w : Worker σ) (path : Path) :
    Nat → Nat → List Char → Progress σ → Progress σ
  | 0, _, _, p => p
  | bound + 1, position, held, p =>
    let more := match fileText p.state.site.files w.directory path with
      | .ok cs => cs.drop position
      | .error _ => []
    if more.isEmpty then
      if held.isEmpty then p
      else w.followFile path bound position [] (w.consumeLine p (String.ofList held))
    else
      let (whole, rest) := Text.cutWholeLines (held ++ more)
      w.followFile path bound (position + more.length) rest
        (w.consumeLines p ((Text.cutLines whole).map String.ofList))

/-- Deals with the lines of a file.  A line that a run appends is no record, so its own output does
not keep it going: the bound allows for a look after every character. -/
def consumeFile (w : Worker σ) (path : Path) (p : Progress σ) : Progress σ × Option Fault :=
  match fileText p.state.site.files w.directory path with
  | .error (lines, e) => (w.consumeLines p lines, some e)
  | .ok cs => (w.followFile path (cs.length + 8) 0 [] p, none)

/-- What a run reads where it is given no file. -/
structure StandardInput where
  text : String
  /-- whether a carriage return ends a line, as it does in a file -/
  isUniversal : Bool := false

/-- The characters that are read, with every line end as a line feed. -/
def StandardInput.chars (i : StandardInput) : List Char :=
  if i.isUniversal then Text.normaliseChars i.text.toList else i.text.toList

/-- Deals with the lines of a file, or of the standard input where there is none, up to a fault in
reading them. -/
def consumeInput (w : Worker σ) (input : Option Path) (standardInput : StandardInput)
    (p : Progress σ) : Progress σ × Option Fault :=
  match input with
  | some path => w.consumeFile path p
  | none => (w.consumeLines p ((Text.cutLines standardInput.chars).map String.ofList), none)

/-! ## Endings -/

/-- How a run ended. -/
inductive Ending where
  | misused (e : UsageFault)
  | helped
  | broken (e : Fault)
  | finished (processed failed : Nat)

/-- What the run reports to whoever started it. -/
def Ending.exitCode : Ending → Nat
  | .misused _ => 2
  | .helped => 0
  | .broken _ => 1
  | .finished _ failed => if failed = 0 then 0 else 1

/-! ## The run -/

/-- What a run finds where it is started. -/
structure Host (σ : Type) where
  home : String → Option String
  workplace : EngineProducer.Workplace
  engine : Engine.Runner σ
  /-- the settings that the surroundings give, with these files -/
  settings : FileTree → Result Settings
  /-- gets ready to export what the journal will hold, and what there is to see of that -/
  startExport : Settings → Result Journal

/-- What a run says at its start. -/
def startNotice (w : Worker σ) : Notice :=
  .info ("Starting " ++ name ++ " on " ++ ", ".intercalate w.consumerTopics)

/-- What a run says at its end. -/
def endNotice (processed failed : Nat) : Notice :=
  .info s!"Processed {processed} records, {failed} failed"

/-- The settings of a run, in which the arguments count most. -/
def settingsFor (h : Host σ) (a : Arguments) (files : FileTree) : Result Settings := do
  let settings ← h.settings files
  return match a.generator with
    | some generator => { settings with generator }
    | none => settings

/-- The producer that settings ask for. -/
def producerOf (h : Host σ) (settings : Settings) : Result (Producer (Engine.Site σ)) := do
  let producer ← EngineProducer.ofSettings h.home settings
  return producer.toProducer h.engine h.workplace

/-- Goes through the input and closes the output, also where the input cannot be read.  A fault in
closing it comes last. -/
def goThrough (w : Worker σ) (a : Arguments) (standardInput : StandardInput) (start : Progress σ) :
    Engine.Site σ × Ending × Journal :=
  let (p, inputFault?) := w.consumeInput a.input standardInput start
  let (_, d, closeFault?) := p.state.publisher.close p.state.site.files.disk
  let site := { p.state.site with files := d.files }
  match closeFault?.or inputFault? with
  | some e => (site, .broken e, p.journal)
  | none =>
    (site, .finished p.processed p.failed, p.journal ++ [.notice (endNotice p.processed p.failed)])

/-- Runs with arguments and a way to come by a producer. -/
def runUsing (make : Settings → Result (Producer (Engine.Site σ))) (h : Host σ) (a : Arguments)
    (standardInput : StandardInput) (site : Engine.Site σ) : Engine.Site σ × Ending × Journal :=
  match settingsFor h a site.files with
  | .error e => (site, .broken e, [])
  | .ok settings => match h.startExport settings with
    | .error e => (site, .broken e, [])
    | .ok journal => match make settings with
      | .error e => (site, .broken e, journal)
      | .ok producer => match a.output with
        | none => (site, .broken (.conversion .noPath), journal)
        | some output =>
          let w : Worker σ := { producer, settings, directory := h.workplace.directory }
          w.goThrough a standardInput {
            state := ⟨site, .file { path := output }⟩
            journal := journal ++ [.notice w.startNotice] }

/-- Runs with arguments, and the producer that the settings ask for. -/
def runWith (h : Host σ) (a : Arguments) (standardInput : StandardInput) (site : Engine.Site σ) :
    Engine.Site σ × Ending × Journal :=
  runUsing (producerOf h) h a standardInput site

/-- Runs with the words of a command line. -/
def run (h : Host σ) (words : List String) (standardInput : StandardInput) (site : Engine.Site σ) :
    Engine.Site σ × Ending × Journal :=
  match Request.ofWords words with
  | .error e => (site, .misused e, [])
  | .ok .help => (site, .helped, [])
  | .ok (.run a) => runWith h a standardInput site

end Worker

end RevisionGraph
