import RevisionGraph.Telemetry.Journal
import RevisionGraph.Simulation.Telemetry.Sampler

/-!
# Exporting

An `Export` says where a journal goes, under which name, and which of its spans.  While one runs it
cannot be replaced; it runs until it is stopped, which takes no more than forgetting it.
-/

set_option autoImplicit false

namespace RevisionGraph.Telemetry

/-- Where a journal goes. -/
structure Export where
  /-- where the collector listens -/
  endpoint : String
  service : String
  generator : String
  sampler : Sampler
  deriving DecidableEq

namespace Export

/-- The name of a service that has none, made up from the program that runs it. -/
def unknownService : String := "unknown_service:python3"

/-- The name under which the collector knows a service. -/
def serviceName (e : Export) : String :=
  if e.service.isEmpty then unknownService else e.service

/-- The export that settings ask for, if they do. -/
def ofSettings (suffix : String) (s : Settings) : Result (Option Export) :=
  if s.otelEnabled then do
    return some {
      endpoint := s.otelExporterOtlpEndpoint
      service := s.otelServiceName ++ suffix
      generator := s.generator
      sampler := ← Sampler.ofSettings s }
  else .ok none

/-- What is said when it starts to go there. -/
def startNotice (e : Export) : Notice :=
  .info ("Telemetry exporting to " ++ e.endpoint ++ " as " ++ e.service)

/-- Starts an export if settings ask for one and none is running. -/
def start (running : Option Export) (suffix : String) (s : Settings) :
    Result (Option Export × Journal) :=
  match running with
  | some e => .ok (some e, [])
  | none => do
    match ← ofSettings suffix s with
    | some e => return (some e, [.notice e.startNotice])
    | none => return (none, [])

/-- The spans of a trace that reach the collector: all or none of them. -/
def exported (e : Export) (trace : Nat) (j : Journal) : List Span :=
  if e.sampler.admits trace then j.spans else []

end Export

end RevisionGraph.Telemetry
