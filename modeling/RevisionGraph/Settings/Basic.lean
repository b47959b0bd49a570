import RevisionGraph.Engine.Command

/-!
# Settings

`Settings` holds every value that can be configured; the defaults of its fields are the values in
force where nothing is configured.
-/

set_option autoImplicit false

namespace RevisionGraph

/-- What can be set, with what holds unless it is. -/
structure Settings where
  debug : Bool := false
  generator : String := "OPAL"
  forge : String := "mvn"
  consumeTopic : String := "maven.packages"
  /-- the topic of call graphs; without one it is named for the generator -/
  produceTopic : Option String := none
  localRepository : String := "~/.m2/repository"
  opalCommand : String := "opal-callgraph --input \x7bartifact\x7d --output \x7boutput\x7d"
  walaCommand : String := "wala-callgraph --input \x7bartifact\x7d --output \x7boutput\x7d"
  engineTimeoutSeconds : Int := 1800
  canonicalizeInternalCalls : Bool := true
  otelEnabled : Bool := false
  otelServiceName : String := "callgraph"
  otelExporterOtlpEndpoint : String := "http://localhost:4317"
  otelTracesSampler : String := "parentbased_traceidratio"
  otelTracesSamplerArg : Binary64 := .one
  deriving DecidableEq

/-- The settings as an object, under the names by which they are configured. -/
def Settings.toJson (s : Settings) : Json :=
  .object [
    ("debug", .bool s.debug),
    ("generator", .text s.generator),
    ("forge", .text s.forge),
    ("consume_topic", .text s.consumeTopic),
    ("produce_topic", (s.produceTopic.map Json.text).getD .null),
    ("local_repository", .text s.localRepository),
    ("opal_command", .text s.opalCommand),
    ("wala_command", .text s.walaCommand),
    ("engine_timeout_seconds", .int s.engineTimeoutSeconds),
    ("canonicalize_internal_calls", .bool s.canonicalizeInternalCalls),
    ("otel_enabled", .bool s.otelEnabled),
    ("otel_service_name", .text s.otelServiceName),
    ("otel_exporter_otlp_endpoint", .text s.otelExporterOtlpEndpoint),
    ("otel_traces_sampler", .text s.otelTracesSampler),
    ("otel_traces_sampler_arg", .float s.otelTracesSamplerArg)]

end RevisionGraph
