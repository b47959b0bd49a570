import RevisionGraph.Json.Field
import RevisionGraph.Settings.Basic

/-!
# Samplers

A `Sampler` says which traces are exported: all, none, or a share of them, which the number of a
trace decides.  `Sampler.ofSettings` is the sampler that settings name.
-/

set_option autoImplicit false

namespace RevisionGraph.Telemetry

/-- Which traces are kept. -/
inductive Sampler where
  | always
  | never
  /-- a share of the traces -/
  | share (ratio : Binary64)
  /-- what the parent of a span says, and a share of the traces where there is none -/
  | parentOrShare (ratio : Binary64)
  deriving DecidableEq

namespace Sampler

/-- Numbers of traces are compared modulo this bound. -/
def traceBound : Nat := 2 ^ 64

/-- A ratio between nothing and everything. -/
def checkRatio (ratio : Binary64) : Result Binary64 :=
  if ratio.less .zero || Binary64.one.less ratio then .error (.conversion .ratioOutOfRange)
  else match ratio.toFraction? with
    | some _ => .ok ratio
    | none => .error (.conversion .ratioNotANumber)

/-- The sampler that settings name; an unknown name means all traces. -/
def ofSettings (s : Settings) : Result Sampler :=
  if s.otelTracesSampler = "always_off" then .ok .never
  else if s.otelTracesSampler = "traceidratio" then
    (checkRatio s.otelTracesSamplerArg).map .share
  else if s.otelTracesSampler = "parentbased_traceidratio" then
    (checkRatio s.otelTracesSamplerArg).map .parentOrShare
  else .ok .always

/-- The number of a trace is among the first of a share. -/
def isWithin (ratio : Binary64) (trace : Nat) : Bool :=
  match ratio.toFraction? with
  | some (num, den) => trace % traceBound < roundDiv (num.natAbs * traceBound) den
  | none => false

/-- A trace without a parent is exported. -/
def admits (s : Sampler) (trace : Nat) : Bool :=
  match s with
  | .always => true
  | .never => false
  | .share ratio | .parentOrShare ratio => isWithin ratio trace

/-- The text of a sampler of a share. -/
def shareText (ratio : Binary64) : String :=
  "TraceIdRatioBased\x7b" ++ numberLayout.write ratio ++ "\x7d"

/-- How a sampler describes itself. -/
def text : Sampler → String
  | .always => "AlwaysOnSampler"
  | .never => "AlwaysOffSampler"
  | .share ratio => shareText ratio
  | .parentOrShare ratio =>
    "ParentBased\x7broot:" ++ shareText ratio ++
      ",remoteParentSampled:AlwaysOnSampler,remoteParentNotSampled:AlwaysOffSampler" ++
      ",localParentSampled:AlwaysOnSampler,localParentNotSampled:AlwaysOffSampler\x7d"

end Sampler

end RevisionGraph.Telemetry
