import RevisionGraph.Json.Field
import RevisionGraph.Settings.Basic
import RevisionGraph.Simulation.Settings.Conversion
import RevisionGraph.Simulation.Settings.Dotenv

/-!
# Where settings come from

A setting is looked up among given values, then among the variables of the process, then in a file
of variables; otherwise its default is in force.  Names are compared without letter case, and of
names that differ in letter case alone the last one counts.

`load` converts every value and reports all that cannot be converted.
-/

set_option autoImplicit false

namespace RevisionGraph.Settings

/-- Everything that settings are read from. -/
structure Sources where
  values : List (String × Json)
  environment : Execution.Environment
  /-- the text of the file of variables -/
  file : Option String

/-- Values under their names in lower case. -/
def foldCase {α : Type} (m : OrderedMap String α) : OrderedMap String α :=
  .ofList (m.entries.map fun e ↦ (Text.lower e.1, e.2))

/-- The value of a setting, if one is configured. -/
def Sources.lookUp (s : Sources) : String → Option Json :=
  let given := foldCase (.ofList s.values)
  let environment := foldCase s.environment
  let fromFile := match s.file with
    | some text => foldCase (Dotenv.read s.environment text)
    | none => .empty
  fun name ↦
    (given.find? name).or <|
      ((environment.find? name).map Json.text).or <| ((fromFile.find? name).join).map Json.text

/-- The value of one setting, and the rule that was broken if it could not be converted. -/
def setting {α : Type} (configured : String → Option Json) (name : String)
    (convert : Json → Conversion α) (default : α) : α × List (String × String) :=
  match configured name with
  | none => (default, [])
  | some value => match convert value with
    | .ok converted => (converted, [])
    | .error rule => (default, [(name, rule)])

/-- The settings in force. -/
def load (sources : Sources) : Result Settings :=
  let look := sources.lookUp
  let d : Settings := {}
  let debug := setting look "debug" truth d.debug
  let generator := setting look "generator" text d.generator
  let forge := setting look "forge" text d.forge
  let consumeTopic := setting look "consume_topic" text d.consumeTopic
  let produceTopic := setting look "produce_topic" optionalText d.produceTopic
  let localRepository := setting look "local_repository" text d.localRepository
  let opalCommand := setting look "opal_command" text d.opalCommand
  let walaCommand := setting look "wala_command" text d.walaCommand
  let timeout := setting look "engine_timeout_seconds" integer d.engineTimeoutSeconds
  let canonicalize :=
    setting look "canonicalize_internal_calls" truth d.canonicalizeInternalCalls
  let enabled := setting look "otel_enabled" truth d.otelEnabled
  let service := setting look "otel_service_name" text d.otelServiceName
  let endpoint := setting look "otel_exporter_otlp_endpoint" text d.otelExporterOtlpEndpoint
  let sampler := setting look "otel_traces_sampler" text d.otelTracesSampler
  let samplerArg := setting look "otel_traces_sampler_arg" number d.otelTracesSamplerArg
  let broken := debug.2 ++ generator.2 ++ forge.2 ++ consumeTopic.2 ++ produceTopic.2 ++
    localRepository.2 ++ opalCommand.2 ++ walaCommand.2 ++ timeout.2 ++ canonicalize.2 ++
    enabled.2 ++ service.2 ++ endpoint.2 ++ sampler.2 ++ samplerArg.2
  if broken.isEmpty then
    .ok {
      debug := debug.1
      generator := generator.1
      forge := forge.1
      consumeTopic := consumeTopic.1
      produceTopic := produceTopic.1
      localRepository := localRepository.1
      opalCommand := opalCommand.1
      walaCommand := walaCommand.1
      engineTimeoutSeconds := timeout.1
      canonicalizeInternalCalls := canonicalize.1
      otelEnabled := enabled.1
      otelServiceName := service.1
      otelExporterOtlpEndpoint := endpoint.1
      otelTracesSampler := sampler.1
      otelTracesSamplerArg := samplerArg.1 }
  else .error (.invalidSettings broken)

/-- The name of the file of variables. -/
def fileName : Path := Path.ofText ".env"

/-- The text of the file of variables in a directory, if there is such a file. -/
def fileText (files : FileTree) (cwd : Place) : Result (Option String) :=
  match files.read cwd fileName with
  | .error _ => .ok none
  | .ok bytes => match Text.decodeFile bytes with
    | .ok text => .ok (some text)
    | .error e => .error (.conversion (.undecodable e.cause))

/-- The settings of a process. -/
def ofSurroundings (files : FileTree) (cwd : Place) (environment : Execution.Environment)
    (values : List (String × Json)) : Result Settings := do
  load { values, environment, file := ← fileText files cwd }

end RevisionGraph.Settings
