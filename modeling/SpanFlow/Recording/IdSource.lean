import SpanFlow.Id
import SpanFlow.Text.Description

/-!
# Sources of identifiers

A provider draws the identifiers of new traces and spans from a source: two sequences, one for each
kind, and how much of each is used up. A counting source starts at given numbers and wraps around.

The source used unless another is named is random. What its generator hands out is not known, but
that it is never zero: a zero that comes up is thrown away and drawn again. It is a parameter here,
`IdSource.Random`, which carries just this.
-/

namespace SpanFlow

/-- A source of identifiers. -/
structure IdSource where
  traceAt : Nat → TraceId
  spanAt : Nat → SpanId
  traces : Nat
  spans : Nat

namespace IdSource

/-- Draws the identifier of a trace. -/
def nextTrace (s : IdSource) : TraceId × IdSource :=
  (s.traceAt s.traces, { s with traces := s.traces + 1 })

/-- Draws the identifier of a span. -/
def nextSpan (s : IdSource) : SpanId × IdSource :=
  (s.spanAt s.spans, { s with spans := s.spans + 1 })

/-- The source that counts up from two numbers. -/
def counting (firstTrace firstSpan : Nat) : IdSource :=
  ⟨fun n => .ofNat (firstTrace + n), fun n => .ofNat (firstSpan + n), 0, 0⟩

/-- What a random generator hands out, one after the other: identifiers of all kinds, but none that
names nothing. -/
structure Random where
  traceAt : Nat → TraceId
  spanAt : Nat → SpanId
  trace_ne_zero : ∀ n, (traceAt n).isValid = true
  span_ne_zero : ∀ n, (spanAt n).isValid = true

/-- The generator that hands out identifiers by their numbers, and one in the place of those that
name nothing. -/
def Random.ofNumbers (trace span : Nat → Nat) : Random where
  traceAt n := if (TraceId.ofNat (trace n)).isValid then .ofNat (trace n) else .ofNat 1
  spanAt n := if (SpanId.ofNat (span n)).isValid then .ofNat (span n) else .ofNat 1
  trace_ne_zero n := by
    split
    · assumption
    · decide
  span_ne_zero n := by
    split
    · assumption
    · decide

/-- The source that draws from a random generator. -/
def random (r : Random) : IdSource := ⟨r.traceAt, r.spanAt, 0, 0⟩

/-- The description of the source used unless another is named. -/
def randomDescription : String := Text.record "RandomIdGenerator" [("_private", "()")]

/-- Draws identifiers for `n` spans that each begin a trace. -/
def drawPairs : Nat → IdSource → List (TraceId × SpanId)
  | 0, _ => []
  | n + 1, s =>
    let (span, s) := s.nextSpan
    let (trace, s) := s.nextTrace
    (trace, span) :: drawPairs n s

end IdSource

end SpanFlow
