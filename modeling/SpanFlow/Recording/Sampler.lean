import SpanFlow.Context.Basic
import SpanFlow.Event

/-!
# Sampling

Whether a span that is about to start is recorded, and whether it is exported, is decided by a
sampler. Two samplers always answer the same; a third one follows a valid parent and asks another
sampler only where there is none; any other rule can be given as a function. The samplers built in
hand on the trace state of the parent and add no attributes.

## Main results

* `sample_parentBased_of_valid`: a valid parent decides alone.
-/

namespace SpanFlow

/-- What becomes of a span. -/
inductive SamplingDecision where
  | drop
  | recordOnly
  | recordAndSample
  deriving DecidableEq

/-- What a sampler is asked: the context in which the span starts, if there is one, and what the
span starts with. -/
structure SamplingQuery where
  parent? : Option Context
  traceId : TraceId
  name : String
  attributes : List Attribute
  links : List Link

/-- What a sampler answers. -/
structure SamplingResult where
  decision : SamplingDecision
  attributes : List Attribute
  state : TraceState

/-- A rule for sampling. -/
inductive Sampler where
  | alwaysOn
  | alwaysOff
  | parentBased (delegate : Sampler)
  | custom (rule : SamplingQuery → SamplingResult)

namespace SamplingQuery

/-- The identity of the span in the context of a query, if it is valid. -/
def validParent? (q : SamplingQuery) : Option SpanContext :=
  match q.parent? with
  | some cx => if cx.spanContext.isValid then some cx.spanContext else none
  | none => none

/-- The trace state of the span in the context of a query. -/
def parentState (q : SamplingQuery) : TraceState :=
  match q.parent? with
  | some cx => cx.spanContext.state
  | none => .empty

end SamplingQuery

namespace Sampler

/-- The decision of a sampler. -/
def decision : Sampler → SamplingQuery → SamplingDecision
  | alwaysOn, _ => .recordAndSample
  | alwaysOff, _ => .drop
  | parentBased delegate, q =>
    match q.validParent? with
    | some parent => if parent.isSampled then .recordAndSample else .drop
    | none => delegate.decision q
  | custom rule, q => (rule q).decision

/-- The answer of a sampler. -/
def sample (s : Sampler) (q : SamplingQuery) : SamplingResult :=
  match s with
  | custom rule => rule q
  | _ => ⟨s.decision q, [], q.parentState⟩

/-- The description of a sampler; a rule given as a function has none. -/
def describe? : Sampler → Option String
  | alwaysOn => some "AlwaysOn"
  | alwaysOff => some "AlwaysOff"
  | parentBased delegate => delegate.describe?.map (Text.tuple "ParentBased")
  | custom _ => none

/-- The sampler used unless another is named. -/
def standard : Sampler := parentBased alwaysOn

/-- A valid parent decides alone. -/
theorem sample_parentBased_of_valid {q : SamplingQuery} {parent : SpanContext}
    (h : q.validParent? = some parent) (delegate : Sampler) :
    (parentBased delegate).sample q =
      ⟨if parent.isSampled then .recordAndSample else .drop, [], q.parentState⟩ := by
  simp [sample, decision, h]

end Sampler

end SpanFlow
