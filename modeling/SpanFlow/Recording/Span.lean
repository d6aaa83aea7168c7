import SpanFlow.Diagnostic
import SpanFlow.Recording.IdSource
import SpanFlow.Recording.Sampler

/-!
# Spans, providers and tracers

The things that live on while they are held: spans, which calls change, and providers, which hold
what their spans share. They are named by numbers and kept in one place, `Telemetry`.

A span either does nothing, or keeps a journal of the calls on it for an onlooker, or records. A
recording span has its record until it ends.

## Main results

* `exists_setAttributes_eq`: writing attributes changes nothing else of a record.
-/

namespace SpanFlow

/-- The name and the provider of a tracer. -/
structure Tracer where
  name : String
  provider : Nat
  deriving DecidableEq

/-- The description of a tracer. -/
def Tracer.describe (t : Tracer) : String :=
  Text.record "Tracer" [("name", Text.quote t.name)]

/-- A call on a span. A call that happens at a time carries it: the one that the caller has stated,
or what the clock showed. -/
inductive SpanCall where
  | setAttributes (attributes : List Attribute)
  | addEvent (name : String) (time : Timestamp) (attributes : List Attribute)
  | addLink (context : SpanContext) (attributes : List Attribute)
  | recordError (message : String) (time : Timestamp)
  | setStatus (status : Status)
  | rename (name : String)
  | finish (time : Timestamp)

/-- What a journal holds of a call. -/
inductive JournalEntry where
  | attribute (a : Attribute)
  | event (name : String) (time : Timestamp) (attributes : List Attribute)
  | link (context : SpanContext) (attributes : List Attribute)
  | status (s : Status)
  | name (name : String)
  | finish (time : Timestamp)

/-- How a span behaves. -/
inductive SpanKind where
  | inert
  | journaled (journal : Nat) (finished : Bool)
  | recorded (record? : Option SpanRecord) (tracer : Tracer) (limits : Limits)

/-- A span. It is poisoned once a call through a context has failed half-way, and released once it
is held no longer. -/
structure Span where
  context : SpanContext
  kind : SpanKind
  poisoned : Bool
  released : Bool

namespace Span

/-- A span that nothing has happened to yet. -/
def fresh (context : SpanContext) (kind : SpanKind) : Span := ⟨context, kind, false, false⟩

/-- Whether calls on a span are recorded. -/
def isRecording (s : Span) : Bool :=
  match s.kind with
  | .inert => false
  | .journaled _ finished => !finished
  | .recorded record? _ _ => record?.isSome

/-- What would be exported if the span ended now. -/
def data? (s : Span) : Option SpanData :=
  match s.kind with
  | .recorded (some r) tracer _ => some (r.exported s.context tracer.name)
  | _ => none

/-- The limits of a recording span. -/
def limits? (s : Span) : Option Limits :=
  match s.kind with
  | .recorded _ _ limits => some limits
  | _ => none

/-- The provider that a span keeps alive. -/
def provider? (s : Span) : Option Nat :=
  match s.kind with
  | .recorded _ tracer _ => some tracer.provider
  | _ => none

end Span

/-- The name of the event that stands for an error, and its one attribute. -/
def errorEvent (message : String) : String × List Attribute :=
  ("exception", [⟨"exception.message", .text message⟩])

namespace SpanRecord

/-- A record after a call that does not end it. -/
def apply (l : Limits) (r : SpanRecord) : SpanCall → SpanRecord
  | .setAttributes attributes => attributes.foldl (fun r a => r.setAttribute l a) r
  | .addEvent name time attributes => r.addEvent l name time attributes
  | .addLink context attributes => r.addLink l context attributes
  | .recordError message time =>
    let (name, attributes) := errorEvent message
    r.addEvent l name time attributes
  | .setStatus status => r.setStatus status
  | .rename name => r.rename name
  | .finish _ => r

/-- Attributes that are written change nothing else. -/
theorem exists_setAttributes_eq (l : Limits) (attributes : List Attribute) (r : SpanRecord) :
    ∃ held dropped, r.apply l (.setAttributes attributes) =
      { r with attributes := held, droppedAttributes := dropped } := by
  rw [apply]
  induction attributes generalizing r with
  | nil => exact ⟨_, _, rfl⟩
  | cons a rest ih =>
    obtain ⟨held, dropped, hFirst⟩ := exists_setAttribute_eq l a r
    rw [List.foldl_cons, hFirst]
    exact ih _

/-- An error is an event, so it changes nothing else either. -/
theorem exists_recordError_eq (l : Limits) (message : String) (time : Timestamp) (r : SpanRecord) :
    ∃ held dropped, r.apply l (.recordError message time) =
      { r with events := held, droppedEvents := dropped } :=
  exists_addEvent_eq l _ time _ r

end SpanRecord

/-- What a journal gains by a call; an error is an event, and only on a span that has not ended. -/
def SpanCall.journal (finished : Bool) : SpanCall → List JournalEntry
  | .setAttributes attributes => attributes.map .attribute
  | .addEvent name time attributes => [.event name time attributes]
  | .addLink context attributes => [.link context attributes]
  | .recordError message time =>
    if finished then []
    else
      let (name, attributes) := errorEvent message
      [.event name time attributes]
  | .setStatus status => [.status status]
  | .rename name => [.name name]
  | .finish time => [.finish time]

/-- The name that a span with a journal refuses, by failing half-way. -/
def refusedName : String := "explode"

/-- Where the limits of new spans come from: a sequence, and how many were asked for. -/
structure LimitsSource where
  supply : Nat → Limits
  queries : Nat

namespace LimitsSource

/-- The source that always gives the same limits. -/
def constant (l : Limits) : LimitsSource := ⟨fun _ => l, 0⟩

/-- The source that gives limits in turn and then repeats the last. -/
def inTurn (ls : List Limits) : LimitsSource :=
  ⟨fun n => (ls[n]?.or ls.getLast?).getD .standard, 0⟩

/-- Asks for limits. -/
def next (s : LimitsSource) : Limits × LimitsSource :=
  (s.supply s.queries, { s with queries := s.queries + 1 })

end LimitsSource

/-- What the spans of one provider share. It is closed by a shutdown, and released once it is held
no longer. -/
structure Provider where
  exporters : List Nat
  sampler : Sampler
  ids : IdSource
  limits : LimitsSource
  closed : Bool
  released : Bool

/-- All spans, providers and exporters, the journals, the diagnostics reported, and what the clock
shows. -/
structure Telemetry where
  spans : List Span
  providers : List Provider
  exporters : List Exporter
  journals : List (List JournalEntry)
  log : List Diagnostic
  now : Timestamp

namespace Telemetry

/-- Nothing yet. -/
def empty : Telemetry := ⟨[], [], [], [], [], ⟨0⟩⟩

/-- Time passes. The clock may be put back, so it shows any reading afterwards. -/
def elapse (t : Telemetry) (now : Timestamp) : Telemetry := { t with now := now }

/-- Reports a diagnostic. -/
def report (t : Telemetry) (d : Diagnostic) : Telemetry := { t with log := t.log ++ [d] }

/-- Changes a span. -/
def modifySpan (t : Telemetry) (id : Nat) (f : Span → Span) : Telemetry :=
  { t with spans := t.spans.modify id f }

/-- Changes a provider. -/
def modifyProvider (t : Telemetry) (id : Nat) (f : Provider → Provider) : Telemetry :=
  { t with providers := t.providers.modify id f }

/-- Adds a span; its number comes with it. -/
def addSpan (t : Telemetry) (s : Span) : Telemetry × Nat :=
  ({ t with spans := t.spans ++ [s] }, t.spans.length)

/-- Adds a provider; its number comes with it. -/
def addProvider (t : Telemetry) (p : Provider) : Telemetry × Nat :=
  ({ t with providers := t.providers ++ [p] }, t.providers.length)

/-- Adds an exporter; its number comes with it. -/
def addExporter (t : Telemetry) (e : Exporter) : Telemetry × Nat :=
  ({ t with exporters := t.exporters ++ [e] }, t.exporters.length)

/-- Adds an empty journal; its number comes with it. -/
def addJournal (t : Telemetry) : Telemetry × Nat :=
  ({ t with journals := t.journals ++ [[]] }, t.journals.length)

end Telemetry

end SpanFlow
