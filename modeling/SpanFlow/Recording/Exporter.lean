import SpanFlow.Recording.SpanData

/-!
# Exporters

An exporter is handed spans that have ended, and is told to flush and to shut down. It answers each
call with success or an error. An exporter that keeps spans in memory never fails, and forgets them
when it shuts down; of any other only the answers matter, which may depend on all calls so far.

Calls come one at a time, each after the answer to the one before, and an exporter does not use
spans and providers while it answers: so its calls are a list, and an answer is a function of them.

## Main results

* `calls_receive`: an exporter remembers every call, whatever it answers.
-/

namespace SpanFlow

/-- Why an exporter or a provider refuses. -/
inductive ExportError where
  | alreadyShutDown
  | failed (text : String)
  deriving DecidableEq

namespace ExportError

/-- The wording of an error. -/
def message : ExportError → String
  | alreadyShutDown => "already shut down"
  | failed text => "operation failed: " ++ text

/-- The description of an error. -/
def describe : ExportError → String
  | alreadyShutDown => "AlreadyShutdown"
  | failed text => Text.tuple "InternalFailure" (Text.quote text)

end ExportError

/-- What an exporter is called with. -/
inductive ExporterCall where
  | export (spans : List SpanData)
  | flush
  | shutdown

/-- How an exporter answers: always well while it keeps the spans, by a rule for every call, or by a
rule for exports alone. -/
inductive Exporter.Kind where
  | memory
  | ruled (answer : List ExporterCall → ExporterCall → Option ExportError)
  | exportOnly (answer : List ExporterCall → ExporterCall → Option ExportError)

/-- An exporter, the calls it has received and the spans it keeps. -/
structure Exporter where
  kind : Exporter.Kind
  calls : List ExporterCall
  stored : List SpanData

namespace Exporter

/-- An exporter before its first call. -/
def fresh (kind : Kind) : Exporter := ⟨kind, [], []⟩

/-- The answer to a call. -/
def answer (e : Exporter) (c : ExporterCall) : Option ExportError :=
  match e.kind with
  | .memory => none
  | .ruled rule => rule e.calls c
  | .exportOnly rule =>
    match c with
    | .export _ => rule e.calls c
    | _ => none

/-- The spans kept after a call. -/
def storedAfter (e : Exporter) (c : ExporterCall) : List SpanData :=
  match e.kind, c with
  | .memory, .export spans => e.stored ++ spans
  | .memory, .shutdown => []
  | _, _ => e.stored

/-- An exporter after a call. -/
def receive (e : Exporter) (c : ExporterCall) : Exporter :=
  ⟨e.kind, e.calls ++ [c], e.storedAfter c⟩

/-- An exporter without the spans it kept. -/
def cleared (e : Exporter) : Exporter := { e with stored := [] }

/-- The calls that an exporter with a rule was handed; calls that it leaves to the usual answer do
not reach it. -/
def handed (e : Exporter) : List ExporterCall :=
  match e.kind with
  | .memory => []
  | .ruled _ => e.calls
  | .exportOnly _ => e.calls.filter fun
    | .export _ => true
    | _ => false

/-- The description of an exporter. Times read from the clock have no text, so spans that are kept
are shown by their names. -/
def describe (e : Exporter) : String :=
  match e.kind with
  | .memory =>
    Text.record "InMemorySpanExporter"
      [("spans", Text.openRecord "Mutex"
        [("data", Text.bracketed (e.stored.map fun d => Text.quote d.name)),
          ("poisoned", "false")])]
  | _ => "ScriptedExporter"

/-- An exporter remembers every call, whatever it answers. -/
@[simp] theorem calls_receive (e : Exporter) (c : ExporterCall) :
    (e.receive c).calls = e.calls ++ [c] := rfl

end Exporter

end SpanFlow
