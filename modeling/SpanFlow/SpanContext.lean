import SpanFlow.Id
import SpanFlow.TraceFlags
import SpanFlow.TraceState.Header

/-!
# Span contexts

What identifies a span to others: its trace, its own identifier, the flags and the trace state. It
is valid if both identifiers are.

## Main results

* `ofHex_text`: a context is made again from the texts of its identifiers.
-/

namespace SpanFlow

/-- The identity of a span. -/
structure SpanContext where
  traceId : TraceId
  spanId : SpanId
  flags : TraceFlags
  state : TraceState
  deriving DecidableEq

namespace SpanContext

/-- The context of no span. -/
def none : SpanContext := ⟨.invalid, .invalid, .none, .empty⟩

/-- Whether a context identifies a span. -/
def isValid (sc : SpanContext) : Bool := sc.traceId.isValid && sc.spanId.isValid

/-- Whether the trace is sampled. -/
def isSampled (sc : SpanContext) : Bool := sc.flags.isSampled

/-- The context with these texts as identifiers, or the context of no span if either is none. -/
def ofHex (traceId spanId : String) (flags : TraceFlags) (state : TraceState) : SpanContext :=
  match TraceId.ofHex traceId, SpanId.ofHex spanId with
  | .ok t, .ok s => ⟨t, s, flags, state⟩
  | _, _ => none

/-- The description of a span context. -/
def describe (sc : SpanContext) : String :=
  Text.record "SpanContext"
    [("trace_id", sc.traceId.text), ("span_id", sc.spanId.text),
      ("trace_flags", sc.flags.describe), ("trace_state", sc.state.describe)]

/-- A context is made again from the texts of its identifiers. -/
theorem ofHex_text (sc : SpanContext) :
    ofHex sc.traceId.text sc.spanId.text sc.flags sc.state = sc := by
  simp [ofHex, TraceId.ofHex_text, SpanId.ofHex_text]

end SpanContext

end SpanFlow
