import SpanFlow.Proofs.Propagation.TraceChain

/-!
# Records told from calls

Acts reach what a span has recorded by calls on that span, made directly or through a context that
carries it. As long as no act ends the span, its record is what these calls make, in their order, of
the record with which it began. Nothing else has a part in it: not what is done to other spans, not
what becomes of the provider, and not the limits that it hands out later.

The first of the calls is made while the span starts. By it the attributes are written that the
sampler has answered with, and they are subject to the limits like all that follow.

## Main results

* `hasRecord_onSpan`, `hasRecord_afterAll`: what one act makes of a record, and what a run does.
* `data_afterAll`: what a span has recorded that was started and has not ended.
-/

namespace SpanFlow

theorem filterMap_cons_toList {α β : Type} (f : α → Option β) (a : α) (as : List α) :
    (a :: as).filterMap f = (f a).toList ++ as.filterMap f := by
  rw [List.filterMap_cons]
  cases f a <;> rfl

/-- A record after calls, one after the other. -/
def SpanRecord.applyAll (l : Limits) (r : SpanRecord) (calls : List SpanCall) : SpanRecord :=
  calls.foldl (SpanRecord.apply l) r

/-- A span that has this record, kept within these limits. -/
structure Span.HasRecord (s : Span) (l : Limits) (r : SpanRecord) : Prop where
  poisoned : s.poisoned = false
  kind : ∃ tracer, s.kind = .recorded (some r) tracer l

namespace Span.HasRecord

variable {s : Span} {l : Limits} {r : SpanRecord}

theorem afterCall (h : s.HasRecord l r) {c : SpanCall} (hOpen : c.ends? = none) :
    (s.afterCall c).HasRecord l (r.apply l c) := by
  obtain ⟨hPoisoned, tracer, hKind⟩ := h
  refine ⟨by rw [poisoned_afterCall, hPoisoned], tracer, ?_⟩
  cases c with
  | finish time => cases hOpen
  | _ => simp only [Span.afterCall, hKind]

/-- A call through a context does to a span that records what a direct one does. -/
theorem afterActiveCall (h : s.HasRecord l r) {c : SpanCall} (hOpen : c.ends? = none) :
    (s.afterActiveCall c).HasRecord l (r.apply l c) := by
  obtain ⟨-, hKind⟩ := h.afterCall hOpen
  obtain ⟨hPoisoned, tracer, hRecorded⟩ := h
  have hFine : s.fails c = false := by simp only [fails, hRecorded]
  rw [Span.afterActiveCall, hPoisoned, hFine]
  exact ⟨rfl, hKind⟩

end Span.HasRecord

namespace Telemetry

/-! ## Calls of a run -/

/-- The call that an act makes on a span, directly or through a context that carries the span. -/
def Act.callOn? (id : Nat) : Act → Option SpanCall
  | call other c => if other = id then some c else none
  | callActive active c => if active.span? = some id then some c else none
  | _ => none

/-- The calls that acts make on a span, in order. -/
def callsOn (id : Nat) (acts : List Act) : List SpanCall := acts.filterMap (Act.callOn? id)

/-- A span outlives acts none of which ends it. -/
def Outlives (id : Nat) (acts : List Act) : Prop := ∀ a ∈ acts, a.ended? ≠ some id

instance (id : Nat) (acts : List Act) : Decidable (Outlives id acts) :=
  inferInstanceAs (Decidable (∀ a ∈ acts, _))

theorem callsOn_cons (id : Nat) (a : Act) (acts : List Act) :
    callsOn id (a :: acts) = (a.callOn? id).toList ++ callsOn id acts :=
  filterMap_cons_toList _ a acts

variable {id : Nat} {s : Span} {l : Limits} {r : SpanRecord}

/-- An act that does not end a span makes of its record what the call in it does, if it is one on
this span. -/
theorem hasRecord_onSpan (h : s.HasRecord l r) {a : Act} (hLasts : a.ended? ≠ some id) :
    (a.onSpan id s).HasRecord l (r.applyAll l (a.callOn? id).toList) := by
  cases a with
  | call other c =>
    by_cases hSame : other = id
    · have hOpen : c.ends? = none := by
        cases hEnds : c.ends? with
        | none => rfl
        | some time => exact absurd (by simp [Act.ended?, hEnds, hSame]) hLasts
      simp only [Act.onSpan, Act.callOn?, if_pos hSame]
      exact h.afterCall hOpen
    · simp only [Act.onSpan, Act.callOn?, if_neg hSame]
      exact h
  | callActive active c =>
    by_cases hSame : active.span? = some id
    · have hOpen : c.ends? = none := by
        cases hEnds : c.ends? with
        | none => rfl
        | some time => exact absurd (by simp [Act.ended?, hEnds, hSame]) hLasts
      simp only [Act.onSpan, Act.callOn?, if_pos hSame]
      exact h.afterActiveCall hOpen
    · simp only [Act.onSpan, Act.callOn?, if_neg hSame]
      exact h
  | releaseSpan other =>
    have hOther : other ≠ id := fun hSame => hLasts (congrArg some hSame)
    rw [Act.onSpan, if_neg hOther]
    exact h
  | _ => exact h

/-- A span that outlives a run has the record that the calls on it have made, in their order. -/
theorem hasRecord_afterAll {t : Telemetry} (hSpan : t.spans[id]? = some s) (h : s.HasRecord l r)
    {acts : List Act} (hLasts : Outlives id acts) :
    ∃ s', (t.afterAll acts).spans[id]? = some s' ∧
      s'.HasRecord l (r.applyAll l (callsOn id acts)) := by
  induction acts generalizing t s r with
  | nil => exact ⟨s, hSpan, h⟩
  | cons a rest ih =>
    obtain ⟨hHead, hRest⟩ := List.forall_mem_cons.1 hLasts
    obtain ⟨s', hSpan', h'⟩ := ih (span_after hSpan a) (hasRecord_onSpan h hHead) hRest
    refine ⟨s', hSpan', ?_⟩
    rw [callsOn_cons, SpanRecord.applyAll, List.foldl_append]
    exact h'

/-! ## From the start on -/

/-- A start after which the span records: its provider is open, and the sampler does not drop it. -/
structure StartsRecording (t : Telemetry) (tracer : Tracer) (name : String) (cx : Context)
    (p : Provider) : Prop where
  provider : t.providers[tracer.provider]? = some p
  isOpen : p.closed = false
  decision : (beginning p name cx).result.decision ≠ .drop

/-- The limits that the source of a provider gives to the next span. -/
def limitsAtStart (p : Provider) : Limits := p.limits.supply p.limits.queries

section Started

variable {t : Telemetry} {tracer : Tracer} {name : String} {cx : Context} {p : Provider}
  (h : StartsRecording t tracer name cx p)
include h

theorem hasRecord_begun :
    (t.begun tracer name cx).HasRecord (limitsAtStart p)
      ((SpanRecord.started (beginning p name cx).parent name t.now).apply (limitsAtStart p)
        (.setAttributes (beginning p name cx).result.attributes)) := by
  obtain ⟨hProvider, hOpen, hDecision⟩ := h
  rw [begun_of_open hProvider hOpen, Beginning.record?_of_ne_drop hDecision]
  exact ⟨rfl, tracer, rfl⟩

/-- What a span has recorded that was started and has not ended: what the calls on it have made of
the record with which it began, the first of them being the sampler's. -/
theorem data_afterAll {acts : List Act} (hLasts : Outlives (t.start tracer name cx).2 acts) :
    ∃ data, ((t.start tracer name cx).1.afterAll acts).dataOf? (t.start tracer name cx).2 =
        some data ∧
      data.toSpanRecord = (SpanRecord.started (beginning p name cx).parent name t.now).applyAll
        (limitsAtStart p) (.setAttributes (beginning p name cx).result.attributes ::
          callsOn (t.start tracer name cx).2 acts) := by
  obtain ⟨s, hSpan, -, other, hKind⟩ :=
    hasRecord_afterAll (span_start t tracer name cx) (hasRecord_begun h) hLasts
  refine ⟨SpanRecord.exported _ s.context other.name, ?_, rfl⟩
  rw [dataOf?, hSpan, Option.bind_some, Span.data?, hKind]
  rfl

end Started

end Telemetry

end SpanFlow
