import RevisionGraph.Simulation.Settings.Sources
import RevisionGraph.Simulation.Telemetry.Export
import RevisionGraph.Worker.Run

/-!
# A host for a run

`Host.ofSurroundings` takes the settings of a run from the variables and the files around it, and
gets its journal exported as they say.
-/

set_option autoImplicit false

namespace RevisionGraph.Worker

open Telemetry

/-- The name of the service is followed by this in exports. -/
def serviceSuffix : String := "-worker"

/-- A host for a run with these variables. -/
def Host.ofSurroundings {σ : Type} (environment : Execution.Environment)
    (home : String → Option String) (workplace : EngineProducer.Workplace)
    (engine : Engine.Runner σ) : Host σ where
  home
  workplace
  engine
  settings files := Settings.ofSurroundings files workplace.directory environment []
  startExport settings := (Export.start none serviceSuffix settings).map Prod.snd

end RevisionGraph.Worker
