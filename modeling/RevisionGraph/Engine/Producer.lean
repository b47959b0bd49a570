import RevisionGraph.Assembly.Facts
import RevisionGraph.Engine.Template
import RevisionGraph.Engine.Words
import RevisionGraph.Maven.Repository
import RevisionGraph.Execution.Programs
import RevisionGraph.Settings.Basic
import RevisionGraph.Text.LetterCase

/-!
# Producing call graphs

A `Producer` makes the call graph of a release in any way: it takes a coordinate and a time and
gives a revision, or why there is none.

An `EngineProducer` runs an external engine.  It finds the artifact, runs a command made from a
template in a directory of its own, and assembles the facts that the command wrote there.

* **The run.**  `EngineProducer.facts` runs the engine and reads the facts; the directory is gone
  afterwards, unless it cannot be removed.
* **The choice.**  `EngineProducer.ofSettings` is the producer that settings select.
-/

set_option autoImplicit false

namespace RevisionGraph

/-- What making a call graph gives: the revision or why there is none, and what there is to say. -/
structure Production where
  result : Result Revision
  notices : List Notice

/-- A way to make call graphs. -/
structure Producer (σ : Type) where
  /-- the name of the generator -/
  generator : String
  produce : σ → Coordinate → Int → σ × Production

/-- An engine, and what its call graphs are made of. -/
structure EngineProducer where
  generator : String
  /-- the template of the command -/
  command : String
  repository : Repository
  forge : String
  timeout : Seconds
  deriving DecidableEq

namespace EngineProducer

/-! ## Making one -/

/-- A producer with a command that is not blank. -/
def create (generator command : String) (repository : Repository) (forge : String)
    (timeout : Seconds) : Result EngineProducer :=
  if Text.isAllBlank command then
    .error (.invalidConfig (Text.lower generator ++ "_command") command "empty command")
  else .ok { generator, command, repository, forge, timeout }

/-- The generators that settings can select. -/
def generators : List String := ["OPAL", "WALA"]

/-- The command of a generator. -/
def commandOf? (s : Settings) (generator : String) : Option String :=
  if generator = "OPAL" then some s.opalCommand
  else if generator = "WALA" then some s.walaCommand
  else none

/-- The producer that settings select; letter case does not count in the name of its generator. -/
def ofSettings (home : String → Option String) (s : Settings) : Result EngineProducer :=
  let generator := Text.upperLatin s.generator
  match commandOf? s generator with
  | none => .error (.invalidConfig "generator" s.generator
      ("expected one of " ++ ", ".intercalate generators))
  | some command => do
    let repository ← Repository.ofText home s.localRepository
    create generator command repository s.forge (.whole s.engineTimeoutSeconds)

/-! ## The command -/

/-- The words of the command for an artifact and a file for the facts. -/
def commandFor (p : EngineProducer) (artifact output : Path) : Result (List String) := do
  (← Engine.splitWords p.command).mapM
    (Engine.fill [("artifact", artifact), ("output", output)])

/-- The program of the command can be found. -/
def isAvailable (p : EngineProducer) (files : FileTree) (cwd : Place)
    (environment : Execution.Environment) : Result Bool := do
  let word ← Engine.firstWord (← Engine.splitWords p.command)
  return (Execution.findProgram files cwd (Execution.searchPath environment) word).toBool

/-! ## The run -/

/-- The name of the file with the facts. -/
def factsFileName : String := "facts.jsonl"

/-- What a failed run of the engine means: that it cannot be run, took too long or failed is a
failure of the analysis; anything else stays what it is. -/
def analysisFault (p : EngineProducer) (c : Coordinate) : Fault → Fault
  | e@(.commandNotFound _) => .analysis (.commandMissing e.message p.generator)
  | e@(.commandTimedOut _ _) => .analysis (.commandTimedOut e.message p.generator c.text)
  | e@(.commandFailed _ _ errors) =>
    .analysis (.commandFailed e.message p.generator c.text errors)
  | e => e

/-- Where engines run: the current directory, and the directory that each run gets for itself. -/
structure Workplace where
  directory : Place
  scratch : Path
  /-- what keeps a run from making its directory, and from removing it -/
  makingFault : FileTree → Option FileFault := fun _ ↦ none
  removalFault : FileTree → Option FileFault := fun _ ↦ none

/-- The place of the scratch directory. -/
def Workplace.scratchPlace (w : Workplace) : Place := w.scratch.parts

/-- Where an engine leaves its facts. -/
def Workplace.output (w : Workplace) : Path := w.scratch.append factsFileName

/-- Reads the facts that a run left in a file. -/
def readFacts (p : EngineProducer) (c : Coordinate) (files : FileTree) (cwd : Place)
    (output : Path) : Result Assembly :=
  match files.read cwd output with
  | .error .isADirectory => .error (.file ⟨.isADirectory, output.toText⟩)
  | .error .nameTooLong => .error (.file ⟨.nameTooLong, output.toText⟩)
  | .error _ => .error (.analysis (.noFacts p.generator c.text))
  | .ok bytes =>
    let (assembly, result) := Assembly.empty.loadFacts bytes
    result.map fun _ ↦ assembly

variable {σ : Type}

/-- What an engine finds: the files, and a directory for itself. -/
def Workplace.prepare (w : Workplace) (site : Engine.Site σ) : Engine.Site σ :=
  { site with files := site.files.plant w.scratchPlace .directory (rightsOf 7 0 0) }

/-- Runs the engine in its directory and gives what its facts amount to. -/
def runEngine (p : EngineProducer) (run : Engine.Runner σ) (w : Workplace) (c : Coordinate)
    (artifact : Path) (site : Engine.Site σ) : Engine.Site σ × Result Assembly :=
  match p.commandFor artifact w.output with
  | .error e => (site, .error e)
  | .ok words =>
    let (after, outcome) := run site ⟨words, w.scratch, p.timeout⟩
    match outcome.bind fun o ↦ o.check words with
    | .error e => (after, .error (p.analysisFault c e))
    | .ok () => (after, p.readFacts c after.files w.directory w.output)

/-- Makes a directory, runs the engine in it and removes it.  If it cannot be removed, this is the
fault, whatever the engine did. -/
def facts (p : EngineProducer) (run : Engine.Runner σ) (w : Workplace) (c : Coordinate)
    (artifact : Path) (site : Engine.Site σ) : Engine.Site σ × Result Assembly :=
  match w.makingFault site.files with
  | some fault => (site, .error (.file fault))
  | none =>
    let (after, result) := p.runEngine run w c artifact (w.prepare site)
    match w.removalFault after.files with
    | some fault => (after, .error (.file fault))
    | none => ({ after with files := after.files.remove w.scratchPlace }, result)

/-- What names the release of a coordinate. -/
def releaseOf (p : EngineProducer) (c : Coordinate) (time : Int) : Release where
  forge := p.forge
  product := c.product
  version := c.version
  generator := p.generator
  time := time
  dependencies := []

/-- Makes the call graph of a release. -/
def produce (p : EngineProducer) (run : Engine.Runner σ) (w : Workplace)
    (site : Engine.Site σ) (c : Coordinate) (time : Int) : Engine.Site σ × Production :=
  match p.repository.resolve site.files w.directory c with
  | .error e => (site, ⟨.error e, []⟩)
  | .ok artifact =>
    let (site, result) := p.facts run w c artifact site
    match result with
    | .error e => (site, ⟨.error e, []⟩)
    | .ok assembly =>
      let release := p.releaseOf c time
      (site, ⟨(assembly.build release).2, assembly.notices release⟩)

/-- The engine producer as a producer. -/
def toProducer (p : EngineProducer) (run : Engine.Runner σ) (w : Workplace) :
    Producer (Engine.Site σ) where
  generator := p.generator
  produce := p.produce run w

end EngineProducer

end RevisionGraph
