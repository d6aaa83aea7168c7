import SpanFlow.Recording.Span

/-!
# Recording

Starting spans, calling on them, ending them, and what providers do with those that ended.

A span that ends is handed to every exporter of its provider, one call per span, if it was sampled
and the provider is not shut down. What exporters answer is reported and changes nothing else. A
provider is shut down once, by the first call that asks for it or when it is released.

All this happens in one sequence. An exporter answers before anything else is done, and while it is
called it calls on no span or provider itself; nor do two callers end spans at once. What callers
hand over are values: no code of theirs runs while a span is locked.

## Main results

* `exporters_callExporter_length`: calls make no exporter and remove none.
-/

namespace SpanFlow.Telemetry

/-! ## Exporters -/

/-- Calls an exporter; the error it answers with comes back. -/
def callExporter (t : Telemetry) (id : Nat) (c : ExporterCall) : Telemetry × Option ExportError :=
  match t.exporters[id]? with
  | none => (t, none)
  | some e => ({ t with exporters := t.exporters.set id (e.receive c) }, e.answer c)

/-- Hands an ended span to exporters, each in turn. -/
def exportTo (data : SpanData) : List Nat → Telemetry → Telemetry
  | [], t => t
  | id :: rest, t =>
    let (t, failure?) := t.callExporter id (.export [data])
    exportTo data rest <|
      match failure? with
      | some e => t.report (.exportFailed e)
      | none => t

/-- Flushes exporters, each in turn; the errors come back. -/
def flushEach : List Nat → Telemetry → Telemetry × List ExportError
  | [], t => (t, [])
  | id :: rest, t =>
    let (t, failure?) := t.callExporter id .flush
    let (t, failures) := flushEach rest t
    (t, failure?.toList ++ failures)

/-- Shuts exporters down, each in turn; the last error comes back, or the one from before. -/
def shutdownEach (last? : Option ExportError) : List Nat → Telemetry →
    Telemetry × Option ExportError
  | [], t => (t, last?)
  | id :: rest, t =>
    match t.callExporter id .shutdown with
    | (t, some e) => shutdownEach (some e) rest (t.report (.shutdownFailed e))
    | (t, none) => shutdownEach last? rest t

/-! ## Providers -/

/-- Whether a provider takes part no longer. -/
def isClosed (t : Telemetry) (provider : Nat) : Bool :=
  match t.providers[provider]? with
  | some p => p.closed
  | none => true

/-- The exporters of a provider. -/
def exportersOf (t : Telemetry) (provider : Nat) : List Nat :=
  match t.providers[provider]? with
  | some p => p.exporters
  | none => []

/-- Flushes a provider. -/
def flush (t : Telemetry) (provider : Nat) : Telemetry × Except ExportError Unit :=
  if t.isClosed provider then (t, .error .alreadyShutDown)
  else
    match flushEach (t.exportersOf provider) t with
    | (t, []) => (t, .ok ())
    | (t, failures) =>
      (t, .error (.failed ("errs: " ++ Text.bracketed (failures.map ExportError.describe))))

/-- Marks a provider as shut down and shuts its exporters down. -/
def close (t : Telemetry) (provider : Nat) : Telemetry × Option ExportError :=
  let exporters := t.exportersOf provider
  shutdownEach none exporters (t.modifyProvider provider fun p => { p with closed := true })

/-- Shuts a provider down, once. -/
def shutdown (t : Telemetry) (provider : Nat) : Telemetry × Except ExportError Unit :=
  if t.isClosed provider then (t, .error .alreadyShutDown)
  else
    match t.close provider with
    | (t, some e) => (t, .error e)
    | (t, none) => (t, .ok ())

/-! ## Spans -/

/-- Ends a span: its record is taken from it and exported as ending at `time`. -/
def finish (t : Telemetry) (id : Nat) (time : Timestamp) : Telemetry :=
  match t.spans[id]? with
  | none => t
  | some s =>
    match s.kind with
    | .recorded (some r) tracer limits =>
      let t := t.modifySpan id fun s => { s with kind := .recorded none tracer limits }
      if t.isClosed tracer.provider || !s.context.isSampled then t
      else
        exportTo ({ r with finish := time }.exported s.context tracer.name)
          (t.exportersOf tracer.provider) t
    | _ => t

/-- Adds to a journal. -/
def note (t : Telemetry) (journal : Nat) (entries : List JournalEntry) : Telemetry :=
  { t with journals := t.journals.modify journal (· ++ entries) }

/-- Calls on a span. A span that fails half-way says with which message. -/
def call (t : Telemetry) (id : Nat) (c : SpanCall) : Telemetry × Option String :=
  match t.spans[id]? with
  | none => (t, none)
  | some s =>
    match s.kind, c with
    | .inert, _ => (t, none)
    | .journaled journal finished, .rename name =>
      if name = refusedName then (t, some refusedName)
      else (t.note journal ((SpanCall.rename name).journal finished), none)
    | .journaled journal _, .finish time =>
      let t := t.modifySpan id fun s => { s with kind := .journaled journal true }
      (t.note journal [.finish time], none)
    | .journaled journal finished, c => (t.note journal (c.journal finished), none)
    | .recorded _ _ _, .finish time => (t.finish id time, none)
    | .recorded none _ _, _ => (t, none)
    | .recorded (some r) tracer limits, c =>
      let kind : SpanKind := .recorded (some (r.apply limits c)) tracer limits
      (t.modifySpan id fun s => { s with kind := kind }, none)

/-- Calls on the span that a context carries. A call that fails half-way poisons the span; later
calls do nothing and are reported. Only the span itself can fail here, as one with a journal may.
Attributes and messages are known before the call, so the poisoning of a recorded span by an
iterator or a conversion to text of the caller's own, failing under the lock, has no counterpart. -/
def callActive (t : Telemetry) (active : ActiveSpan) (c : SpanCall) : Telemetry × Option String :=
  match active.span? with
  | none => (t, none)
  | some id =>
    match t.spans[id]? with
    | none => (t, none)
    | some s =>
      if s.poisoned then (t.report .poisonedSpan, none)
      else
        match t.call id c with
        | (t, none) => (t, none)
        | (t, some message) =>
          (t.modifySpan id fun s => { s with poisoned := true }, some message)

/-- Whether a span records. -/
def isRecording (t : Telemetry) (id : Nat) : Bool := t.spans[id]?.any Span.isRecording

/-- Whether the span that a context carries records; a poisoned one does not. -/
def isActiveRecording (t : Telemetry) (active : ActiveSpan) : Bool :=
  match active.span? with
  | none => false
  | some id => t.spans[id]?.any fun s => !s.poisoned && s.isRecording

/-- The reference under which a context carries a span. -/
def activeSpan (t : Telemetry) (id : Nat) : ActiveSpan :=
  match t.spans[id]? with
  | some s => ⟨s.context, some id⟩
  | none => .none

/-- What starting a span needs of its provider: the identifiers drawn, the sampler's answer and the
limits, in this order. A trace is begun only where the context has no valid span. -/
structure Beginning where
  context : SpanContext
  parent : SpanId
  result : SamplingResult
  limits : Limits
  provider : Provider

/-- Asks a provider that is not shut down for what a new span needs. -/
def beginning (p : Provider) (name : String) (parentContext : Context) : Beginning :=
  let parent := parentContext.spanContext
  let (spanId, ids) := p.ids.nextSpan
  let (traceId, ids) := if parent.isValid then (parent.traceId, ids) else ids.nextTrace
  let result := p.sampler.sample ⟨some parentContext, traceId, name, [], []⟩
  let (limits, source) := p.limits.next
  let sampled := result.decision == .recordAndSample
  ⟨⟨traceId, spanId, parent.flags.withSampled sampled, result.state⟩,
    if parent.isValid then parent.spanId else .invalid, result, limits,
    { p with ids := ids, limits := source }⟩

/-- The record that a beginning span has; one that is dropped has none. -/
def Beginning.record? (b : Beginning) (name : String) (now : Timestamp) : Option SpanRecord :=
  match b.result.decision with
  | .drop => none
  | _ =>
    some ((SpanRecord.started b.parent name now).apply b.limits
      (.setAttributes b.result.attributes))

/-- Starts a span in a context, at what the clock shows. A provider that is shut down is not asked
anything. -/
def start (t : Telemetry) (tracer : Tracer) (name : String) (parentContext : Context) :
    Telemetry × Nat :=
  match t.providers[tracer.provider]? with
  | none => t.addSpan (.fresh .none (.recorded none tracer .standard))
  | some p =>
    if p.closed then t.addSpan (.fresh .none (.recorded none tracer .standard))
    else
      let b := beginning p name parentContext
      let t := t.modifyProvider tracer.provider fun _ => b.provider
      t.addSpan (.fresh b.context (.recorded (b.record? name t.now) tracer b.limits))

/-- A call makes no exporter and removes none. -/
theorem exporters_callExporter_length (t : Telemetry) (id : Nat) (c : ExporterCall) :
    (t.callExporter id c).1.exporters.length = t.exporters.length := by
  unfold callExporter
  split <;> simp

end SpanFlow.Telemetry
