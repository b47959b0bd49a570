import RevisionGraph.Execution.Home
import RevisionGraph.Simulation

/-!
# The command line

`main` brings the files and variables that a run needs into memory, lets `Worker.run` do the work,
and writes back what came of it: the notices to the standard error output and the call graphs to the
output file.  Engines are run by the built-in shell.
-/

set_option autoImplicit false

namespace RevisionGraph.CommandLine

/-! ## Before a run -/

/-- The names that variables of interest can have. -/
def variableNames : List String :=
  let configured := match ({} : Settings).toJson with
    | .object members => members.map Prod.fst
    | _ => []
  ["PATH", "HOME", "LC_ALL"] ++ configured ++ configured.map String.toUpper

/-- The variables of the process that matter. -/
def readVariables : IO Execution.Environment := do
  let found ← variableNames.filterMapM fun name ↦ do
    return (← IO.getEnv name).map fun value ↦ (name, value)
  return .ofList found

/-- Where a path leads if every two dots go up by one. -/
def placeOf (cwd : Place) (path : Path) : Place :=
  let start := if path.anchor = .relative then cwd else []
  path.parts.foldl (fun place name ↦ if name = ".." then place.dropLast else place ++ [name]) start

/-- Adds a file to the tree, if there is one. -/
def loadFile (files : FileTree) (cwd : Place) (path : Path) : IO FileTree := do
  try
    let bytes ← IO.FS.readBinFile path.toText
    return files.plant (placeOf cwd path) (.file bytes.toList) FileTree.fileRights
  catch _ => return files

/-- The artifacts that the records on some lines are about. -/
def artifactPaths (repository : Repository) (lines : List String) : List Path :=
  lines.filterMap fun line ↦
    match ReleaseRecord.parse line >>= Coordinate.ofRecord with
    | .ok c => some (repository.artifactPath c)
    | .error _ => none

/-- The lines of the input of a run. -/
def inputLines (files : FileTree) (cwd : Place) (input : Option Path)
    (standardInput : Worker.StandardInput) : List String :=
  let chars := match input with
    | none => standardInput.chars
    | some path => (Worker.fileText files cwd path).toOption.getD []
  (Text.cutLines chars).map String.ofList

/-- The tree with everything that a run with these arguments reads. -/
def loadFor (h : Worker.Host Unit) (a : Worker.Arguments)
    (standardInput : Worker.StandardInput) : IO FileTree := do
  let cwd := h.workplace.directory
  let tree := (Execution.install .empty).plant cwd .directory FileTree.directoryRights
  let files ← (Settings.fileName :: a.output.toList ++ a.input.toList).foldlM
    (fun t p ↦ loadFile t cwd p) tree
  let repository := do
    let settings ← Worker.settingsFor h a files
    Repository.ofText h.home settings.localRepository
  match repository with
  | .ok repository =>
    (artifactPaths repository (inputLines files cwd a.input standardInput)).foldlM
      (fun t p ↦ loadFile t cwd p) files
  | .error _ => return files

/-! ## After a run -/

/-- A notice on a line. -/
def noticeLine (n : Notice) : String := n.level.name ++ " - " ++ n.text

/-- Writes the output file as it is in the tree, if it is there. -/
def saveOutput (files : FileTree) (cwd : Place) (output : Path) : IO Unit := do
  match files.read cwd output with
  | .ok bytes =>
    IO.FS.createDirAll output.parent.toText
    IO.FS.writeBinFile output.toText ⟨bytes.toArray⟩
  | .error _ => return

/-- Tells the user how a run ended. -/
def reportEnding : Worker.Ending → IO Unit
  | .misused e => do
    IO.eprint Worker.usage
    IO.eprintln e.line
  | .helped => IO.print Worker.help
  | .broken e => IO.eprintln (e.category.name ++ ": " ++ e.message)
  | .finished _ _ => return

/-- Runs with what the surroundings of the program hold. -/
def runHere (words : List String) : IO UInt32 := do
  let environment ← readVariables
  let cwd := (Path.ofText ((← IO.getEnv "PWD").getD "/")).parts
  let workplace : EngineProducer.Workplace :=
    { directory := cwd, scratch := Path.ofText "/tmp/callgraph" }
  let host : Worker.Host Unit := .ofSurroundings environment
    (Execution.home Execution.usualAccounts environment) workplace
    (Execution.runner (Execution.start ⟨cwd, environment⟩) {} cwd)
  match Worker.Request.ofWords words with
  | .ok (.run a) =>
    let text ← if a.input.isNone then (← IO.getStdin).readToEnd else pure ""
    let standardInput : Worker.StandardInput := { text }
    let files ← loadFor host a standardInput
    let (site, ending, journal) := Worker.runWith host a standardInput ⟨files, ()⟩
    journal.notices.forM fun n ↦ IO.eprintln (noticeLine n)
    reportEnding ending
    a.output.forM (saveOutput site.files cwd)
    return ending.exitCode.toUInt32
  | .ok .help =>
    reportEnding .helped
    return 0
  | .error e =>
    reportEnding (.misused e)
    return (Worker.Ending.misused e).exitCode.toUInt32

end RevisionGraph.CommandLine

/-- The command line of the worker. -/
def main (words : List String) : IO UInt32 := RevisionGraph.CommandLine.runHere words
