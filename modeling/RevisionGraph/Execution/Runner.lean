import RevisionGraph.Execution.Remains

/-!
# Running commands

A command is started as a process, and what the process leaves behind makes the outcome.  How that
goes is a matter of the machine: `Start` is any way to do it.
-/

set_option autoImplicit false

namespace RevisionGraph.Execution

/-- A way to start a command as a process, and to wait until it ends or its time is over: the files
afterwards, and what it left behind or why it could not be started. -/
abbrev Start := FileTree → Engine.Command → FileTree × Result Remains

/-- What it means that a command could not be started: where something is not there, be it the
program or the directory to run in, the command is not found. -/
def startFault (word : String) : Fault → Fault
  | .file ⟨.notFound, _⟩ | .workingDirectory ⟨.notFound, _⟩ =>
    .commandNotFound ("Command not found: " ++ word)
  | e => e

/-- Runs a command to its outcome. -/
def run (start : Start) (options : Options) (cwd : Place) (files : FileTree)
    (command : Engine.Command) : FileTree × Result Engine.Outcome :=
  match start files command with
  | (files, .error e) => (files, .error (startFault (command.words.headD "") e))
  | (files, .ok remains) => collect options cwd command files remains

/-- Runs the commands of engines. -/
def runner {σ : Type} (start : Start) (options : Options) (cwd : Place) : Engine.Runner σ :=
  fun site command ↦
    let (files, result) := run start options cwd site.files command
    ({ site with files }, result)

end RevisionGraph.Execution
