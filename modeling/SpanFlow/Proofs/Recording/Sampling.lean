import SpanFlow.Proofs.Propagation.TraceChain

/-!
# Samplers that follow a parent

A sampler that follows the parent can be put around any other one, and around itself, any number of
times. A valid parent then decides alone; without one the innermost sampler decides, whatever rule
it is, and each layer hands its decision on. Of what the innermost sampler answers only the decision
gets out: the layers add no attributes and hand on the trace state of the parent, so that this is
all that a span that is started ever sees of it.

A rule that remembers what it was asked before is another function at each question. The statements
here are about each question by itself, with any function for the rule.

## Main results

* `decision_wrapped_of_valid`, `decision_wrapped_of_none`: what the layers decide.
* `sample_wrapped`: all that they answer.
* `wrapped_answers`: the same said of contexts, with what it means for the spans that are started.
-/

namespace SpanFlow

namespace SamplingQuery

theorem validParent?_of_valid {q : SamplingQuery} {cx : Context} (hParent : q.parent? = some cx)
    (hValid : cx.spanContext.isValid = true) : q.validParent? = some cx.spanContext := by
  simp [validParent?, hParent, hValid]

theorem validParent?_of_not_valid {q : SamplingQuery}
    (h : ∀ cx, q.parent? = some cx → cx.spanContext.isValid = false) : q.validParent? = none := by
  unfold validParent?
  split
  · rename_i cx hParent
    rw [h cx hParent]
    rfl
  · rfl

end SamplingQuery

namespace Sampler

/-- A sampler with layers around it that follow the parent. -/
def wrapped (layers : Nat) (base : Sampler) : Sampler := parentBased^[layers] base

theorem wrapped_succ (layers : Nat) (base : Sampler) :
    wrapped (layers + 1) base = parentBased (wrapped layers base) :=
  Function.iterate_succ_apply' parentBased layers base

theorem decision_sample (s : Sampler) (q : SamplingQuery) :
    (s.sample q).decision = s.decision q := by
  cases s <;> rfl

/-- A valid parent decides at the outermost layer. -/
theorem decision_wrapped_of_valid {q : SamplingQuery} {parent : SpanContext}
    (h : q.validParent? = some parent) (layers : Nat) (base : Sampler) :
    (wrapped (layers + 1) base).decision q =
      if parent.isSampled then .recordAndSample else .drop := by
  rw [wrapped_succ, decision, h]

/-- Without a valid parent each layer asks the one beneath. -/
theorem decision_wrapped_of_none {q : SamplingQuery} (h : q.validParent? = none) (layers : Nat)
    (base : Sampler) : (wrapped layers base).decision q = base.decision q := by
  induction layers with
  | zero => rfl
  | succ layers ih =>
    rw [wrapped_succ, decision, h]
    exact ih

/-- **What layers answer**, and that one of them is as good as many. -/
theorem sample_wrapped (layers : Nat) (base : Sampler) (q : SamplingQuery) :
    (wrapped (layers + 1) base).sample q =
      ⟨(parentBased base).decision q, [], q.parentState⟩ := by
  have hDecision : (wrapped (layers + 1) base).decision q = (parentBased base).decision q := by
    cases hParent : q.validParent? with
    | some parent =>
      have hOne := decision_wrapped_of_valid hParent 0 base
      rw [decision_wrapped_of_valid hParent]
      exact hOne.symm
    | none =>
      have hOne := decision_wrapped_of_none hParent 1 base
      rw [decision_wrapped_of_none hParent]
      exact hOne.symm
  rw [← hDecision, wrapped_succ]
  rfl

end Sampler

namespace Telemetry

/-- Where a sampler adds nothing, the record that a span begins with is empty. -/
theorem Beginning.record?_of_nothing {b : Beginning} (h : b.result.attributes = [])
    (name : String) (now : Timestamp) :
    b.record? name now = none ∨ b.record? name now = some (.started b.parent name now) := by
  unfold Beginning.record?
  rw [h]
  split
  · exact .inl rfl
  · exact .inr rfl

/-- What a span that is started shows of a sampler that adds nothing and hands on the trace state.
-/
theorem span_start_of_sample {t : Telemetry} {tracer : Tracer} {p : Provider}
    (hProvider : t.providers[tracer.provider]? = some p) (hOpen : p.closed = false)
    (hSample : ∀ q, (p.sampler.sample q).attributes = [] ∧
      (p.sampler.sample q).state = q.parentState) (name : String) (cx : Context) :
    ∃ span, (t.start tracer name cx).1.spans[(t.start tracer name cx).2]? = some span ∧
      span.context.state = cx.spanContext.state ∧
      ∀ d, span.data? = some d → d.attributes = [] := by
  have hBegun := begun_of_open hProvider hOpen name cx
  refine ⟨_, span_start t tracer name cx, ?_, fun d hData => ?_⟩
  · rw [hBegun]
    exact (hSample _).2
  · have hNothing : (beginning p name cx).result.attributes = [] := (hSample _).1
    rw [hBegun] at hData
    rcases Beginning.record?_of_nothing hNothing name t.now with hRecord | hRecord
    · rw [hRecord] at hData
      cases hData
    · rw [hRecord] at hData
      obtain rfl := Option.some.inj hData
      rfl

end Telemetry

namespace Sampler

/-- **Samplers that follow a parent, in any number of layers around any sampler.** If the context
has a valid span, that span decides: the new one is recorded and sampled if it is sampled, and
dropped if it is not. Otherwise the innermost sampler decides. The answer has no attributes, and the
trace state of the span in the context, or none where there is no context. So one layer is as good
as many, a sampler is known from outside by its decisions alone, and a span that is started has
neither attributes nor a trace state from it. -/
theorem wrapped_answers (layers : Nat) (base : Sampler) :
    (∀ q : SamplingQuery,
      (∀ cx, q.parent? = some cx → cx.spanContext.isValid = true →
        ((wrapped (layers + 1) base).sample q).decision =
          if cx.spanContext.isSampled then .recordAndSample else .drop) ∧
      ((∀ cx, q.parent? = some cx → cx.spanContext.isValid = false) →
        ((wrapped (layers + 1) base).sample q).decision = (base.sample q).decision) ∧
      ((wrapped (layers + 1) base).sample q).attributes = [] ∧
      (∀ cx, q.parent? = some cx →
        ((wrapped (layers + 1) base).sample q).state = cx.spanContext.state) ∧
      (q.parent? = none → ((wrapped (layers + 1) base).sample q).state = .empty)) ∧
    (wrapped (layers + 1) base).sample = (parentBased base).sample ∧
    (∀ other : Sampler, (∀ q, (other.sample q).decision = (base.sample q).decision) →
      (wrapped (layers + 1) other).sample = (wrapped (layers + 1) base).sample) ∧
    ∀ (t : Telemetry) (tracer : Tracer) (p : Provider) (name : String) (cx : Context),
      t.providers[tracer.provider]? = some p → p.closed = false →
      p.sampler = wrapped (layers + 1) base →
      ∃ span, (t.start tracer name cx).1.spans[(t.start tracer name cx).2]? = some span ∧
        span.context.state = cx.spanContext.state ∧
        ∀ d, span.data? = some d → d.attributes = [] := by
  have hAnswer := sample_wrapped layers base
  refine ⟨fun q => ⟨fun cx hParent hValid => ?_, fun hNone => ?_, ?_, fun cx hParent => ?_,
    fun hParent => ?_⟩, ?_, fun other hSame => ?_, ?_⟩
  · rw [decision_sample]
    exact decision_wrapped_of_valid (SamplingQuery.validParent?_of_valid hParent hValid) layers base
  · rw [decision_sample, decision_sample]
    exact decision_wrapped_of_none (SamplingQuery.validParent?_of_not_valid hNone) _ base
  · rw [hAnswer]
  · rw [hAnswer]
    simp only [SamplingQuery.parentState, hParent]
  · rw [hAnswer]
    simp only [SamplingQuery.parentState, hParent]
  · funext q
    exact (hAnswer q).trans (sample_wrapped 0 base q).symm
  · funext q
    have hDecision : other.decision q = base.decision q := by
      rw [← decision_sample, ← decision_sample, hSame]
    rw [hAnswer, sample_wrapped, decision, decision, hDecision]
  · intro t tracer p name cx hProvider hOpen hSampler
    refine Telemetry.span_start_of_sample hProvider hOpen (fun q => ?_) name cx
    rw [hSampler, hAnswer]
    exact ⟨rfl, rfl⟩

end Sampler

end SpanFlow
