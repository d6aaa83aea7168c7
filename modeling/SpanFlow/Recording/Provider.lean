import SpanFlow.Recording.Telemetry

/-!
# Making providers

A provider is made from exporters and from what is named of sampler, identifiers and limits. What is
not named comes from outside. Limits come from the environment variables; if these ask for limits
that are refused, the standard ones are used and the refusal is reported. Identifiers come from a
random generator, which may hand out others to every provider.
-/

namespace SpanFlow

/-- What there is outside: the environment variables, what the random generator hands out to each
provider, by the number of the provider, and what the clock shows at first. -/
structure Surroundings where
  environment : Limits.Environment
  random : Nat → IdSource.Random
  clock : Timestamp

/-- Surroundings in which no variable is set, every generator counts from one, and the clock begins
at zero. -/
def Surroundings.plain : Surroundings where
  environment := []
  random _ := .ofNumbers (· + 1) (· + 1)
  clock := ⟨0⟩

/-- What a provider is made from. -/
structure ProviderPlan where
  exporters : List Nat
  sampler? : Option Sampler
  ids? : Option IdSource
  limits? : Option LimitsSource

namespace ProviderPlan

/-- A plan that names nothing. -/
def standard : ProviderPlan := ⟨[], none, none, none⟩

/-- The description of a sampler, or of a rule that has none of its own. -/
def describeSampler (s : Sampler) : String := s.describe?.getD "Sampler"

/-- The words that stand for any source of limits. -/
def limitsDescription : String := "SpanLimitsSupplier"

/-- The words that stand for a source of identifiers that was named. -/
def idsDescription : String := "IdSource"

/-- The description of a plan. -/
def describe (plan : ProviderPlan) (t : Telemetry) : String :=
  let exporters := plan.exporters.filterMap fun id => t.exporters[id]?.map Exporter.describe
  Text.record "TracerProviderBuilder"
    [("exporters", Text.bracketed exporters),
      ("sampler", Text.optional (plan.sampler?.map describeSampler)),
      ("id_generator", Text.optional (plan.ids?.map fun _ => idsDescription)),
      ("span_limits", Text.optional (plan.limits?.map fun _ => limitsDescription))]

/-- The description of the provider that a plan makes, before anything happens to it. -/
def describeMade (plan : ProviderPlan) (t : Telemetry) : String :=
  let exporters := plan.exporters.filterMap fun id => t.exporters[id]?.map Exporter.describe
  Text.record "SdkTracerProvider"
    [("inner", Text.record "TracerProviderInner"
      [("exporters", Text.bracketed exporters),
        ("sampler", describeSampler (plan.sampler?.getD .standard)),
        ("id_generator",
          if plan.ids?.isSome then idsDescription else IdSource.randomDescription),
        ("span_limits", limitsDescription), ("is_shutdown", "false")])]

/-- The limits of a plan, and what is reported about them. -/
def limits (plan : ProviderPlan) (env : Surroundings) : LimitsSource × List Diagnostic :=
  match plan.limits? with
  | some source => (source, [])
  | none =>
    match Limits.fromEnvironment env.environment with
    | .ok l => (.constant l, [])
    | .error e => (.constant .standard, [.refusedLimits e])

end ProviderPlan

namespace Telemetry

/-- Makes a provider. -/
def addPlanned (t : Telemetry) (plan : ProviderPlan) (env : Surroundings) : Telemetry × Nat :=
  let (source, reports) := plan.limits env
  let t := reports.foldl report t
  t.addProvider ⟨plan.exporters, plan.sampler?.getD .standard,
    plan.ids?.getD (.random (env.random t.providers.length)), source, false, false⟩

end Telemetry

end SpanFlow
