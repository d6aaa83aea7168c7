import SpanFlow.Script.Spans

/-!
# Steps on exporters, providers and tracers

Setting up what records spans, starting spans in a context, and running a body inside a span.
-/

namespace SpanFlow.Script

open Session

/-- Makes and names an exporter. -/
def makeExporter (target : String) (kind : Exporter.Kind) : Action Result :=
  change fun w =>
    let (t, id) := w.telemetry.addExporter (.fresh kind)
    (.nothing, { w with telemetry := t, exporters := Assoc.insert w.exporters target id })

/-- The exporter under a name. -/
def exporterNamed (name : String) : Action (Nat × Exporter) := do
  let id ← named World.exporters name
  match (← get).telemetry.exporters[id]? with
  | some e => return (id, e)
  | none => throw (.unknownName name)

/-- Forgets the spans that an exporter keeps. -/
def clearExporter (name : String) : Action Result := do
  let (id, e) ← exporterNamed name
  change fun w =>
    let exporters := w.telemetry.exporters.set id e.cleared
    (.nothing, { w with telemetry := { w.telemetry with exporters := exporters } })

/-- The calls that an exporter was handed since this was last asked. -/
def handedSince (name : String) : Action Result := do
  let (id, e) ← exporterNamed name
  change fun w =>
    let asked := (Assoc.get? w.handed id).getD 0
    (.handed (e.handed.drop asked), { w with handed := Assoc.insert w.handed id e.handed.length })

/-- Names a provider, in the place of what had that name. -/
def nameProvider (name : String) (id : Nat) (w : State) : State :=
  { w with providers := Assoc.insert w.providers name id }.settle

/-- Makes and names a provider. -/
def addProvider (target : String) (plan : ProviderPlan) : Action Unit :=
  modify fun w =>
    let (t, id) := w.telemetry.addPlanned plan w.environment
    nameProvider target id { w with telemetry := t }

/-- Makes and names a provider from parts under names. -/
def makeProvider (target : String) (parts : ProviderSteps) (described : Bool) :
    Action Result := do
  let exporters ← parts.exporters.mapM (named World.exporters)
  let plan : ProviderPlan := ⟨exporters, parts.sampler?, parts.ids?, parts.limits?⟩
  let descriptions ← ask fun w => [plan.describe w.telemetry, plan.describeMade w.telemetry]
  addProvider target plan
  return if described then .texts descriptions else .nothing

/-- Makes and names the provider of a plan that names nothing. -/
def makeStandardProvider (target : String) : Action Result := do
  let description ← ask fun w => ProviderPlan.standard.describeMade w.telemetry
  addProvider target .standard
  return .text description

/-- How often the limits of a provider were asked for. -/
def limitQueries (name : String) : Action Result := do
  let id ← named World.providers name
  ask fun w => .count ((w.telemetry.providers[id]?.map fun p => p.limits.queries).getD 0)

/-- Names a provider again. -/
def copyProvider (target name : String) : Action Result := do
  let id ← named World.providers name
  change fun w => (.nothing, nameProvider target id w)

/-- Has a provider do something that may be refused. -/
def onProvider (name : String)
    (act : Telemetry → Nat → Telemetry × Except ExportError Unit) : Action Result := do
  let id ← named World.providers name
  change fun w =>
    let (t, answer) := act w.telemetry id
    (.answered answer, { w with telemetry := t })

/-- Makes and names a tracer. -/
def makeTracer (target provider name : String) : Action Result := do
  let id ← named World.providers provider
  let tracer : Tracer := ⟨name, id⟩
  change fun w =>
    (.tracer tracer, { w with tracers := Assoc.insert w.tracers target tracer }.settle)

/-- Starts and names a span in a context. -/
def startSpan (flow : Nat) (target tracer name : String) (cx? : Option String) :
    Action Result := do
  let tracer ← named World.tracers tracer
  let cx ← contextOr flow cx?
  change fun w =>
    let (t, id) := w.telemetry.start tracer name cx
    let w := { w with telemetry := t }.nameSpan target id
    let span := w.telemetry.spans[id]?
    (.started (t.activeSpan id).context (t.isRecording id) (span.bind Span.limits?), w)

/-- What would be exported of a span if it ended now; a boxed span does not tell. -/
def dataOf (name : String) : Action Result := do
  let id ← named World.spans name
  ask fun w =>
    .data (if w.boxed.contains id then none else w.telemetry.spans[id]?.bind Span.data?)

/-- Runs a body in a context that carries a span; the span is ended when the body is done, but not
when it fails. -/
def runInside (run : Runner) (flow : Nat) (inner : Context) (body : Body)
    (target? : Option String) : Action Run :=
  keeping (.context inner) <| under flow inner do
    match target? with
    | some target => discard <| storeContext target inner
    | none => pure ()
    let ran ← run flow body
    if ran.failure?.isNone then
      passOn fun t => t.callActive inner.activeSpan (.finish t.now)
    return ran

/-- Starts a span and runs a body in a new context that carries it. -/
def inSpan (run : Runner) (flow : Nat) (tracer name : String) (body : Body)
    (target? : Option String) : Action Run := do
  let tracer ← named World.tracers tracer
  let cx ← contextOr flow none
  keeping (.tracer tracer) do
    let inner ← change fun w =>
      let (t, span) := w.telemetry.start tracer name cx
      let (id, w) := { w with telemetry := t }.fresh
      (cx.withSpan id (t.activeSpan span), w)
    runInside run flow inner body target?

/-- Takes a name from a thing and lets the thing go; tells whether there was one. -/
def release (kind : HeldKind) (name : String) : Action Result :=
  change fun w =>
    match kind with
    | .context =>
      (.flag (Assoc.contains w.contexts name),
        { w with contexts := Assoc.erase w.contexts name }.settle)
    | .span =>
      (.flag (Assoc.contains w.spans name), { w with spans := Assoc.erase w.spans name }.settle)
    | .tracer =>
      (.flag (Assoc.contains w.tracers name),
        { w with tracers := Assoc.erase w.tracers name }.settle)
    | .provider =>
      (.flag (Assoc.contains w.providers name),
        { w with providers := Assoc.erase w.providers name }.settle)
    | .work =>
      (.flag (Assoc.contains w.works name), { w with works := Assoc.erase w.works name }.settle)
    | .future =>
      (.flag (Assoc.contains w.futures name),
        { w with futures := Assoc.erase w.futures name }.settle)

end SpanFlow.Script
