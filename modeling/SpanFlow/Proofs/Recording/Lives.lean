import Mathlib.Data.List.Perm.Basic
import SpanFlow.Proofs.Propagation.TraceChain
import SpanFlow.Proofs.Recording.Answers
import SpanFlow.Proofs.Recording.Releases

/-!
# Lives of spans

A span lives from its start to its release. What happens meanwhile may start and release other spans
and call on any, but it ends none that was there before. `Spends` says of such a piece of a run what
it exports and what it leaves alone, and `spends_life` that the life of a span is such a piece
again: to what was exported meanwhile it adds the span itself, as the last one.

It makes no difference whether the span is ended just before its release. The release ends a span
that has not ended, at the same time and with the same effect on everything, which is why a body
that fails leaves the same behind as one that returns.

## Main results

* `calm_settle`: where a state has settled, nothing is loose.
* `settle_of_calm`, `settle_eq_releaseSpan`: what settling does where little or nothing is loose.
* `live_planned`: a provider records that is made without naming a source of identifiers.
* `begun_of_live`: what a span is that begins below a sampled one or begins a trace.
* `releaseSpan_finish`: a release is the same after the end of the span as without it.
* `spends_life`: the life of a span.
-/

namespace SpanFlow

/-- A provider that is open, records the spans below sampled ones and those that begin a trace, and
draws no identifier that is zero. -/
structure Provider.Records (q : Provider) : Prop where
  closed : q.closed = false
  sampler : q.sampler = .alwaysOn ∨ q.sampler = .parentBased .alwaysOn
  trace : ∀ n, (q.ids.traceAt n).isValid = true
  span : ∀ n, (q.ids.spanAt n).isValid = true

/-- The span of a call that was made where a context carries the span `around`: its child if that
one is valid, and otherwise the first span of a trace. -/
structure SpanData.ChildOf (around : SpanContext) (d : SpanData) : Prop where
  valid : d.context.isValid = true
  sampled : d.context.isSampled = true
  parent : d.parent = if around.isValid then around.spanId else .invalid
  traceId : around.isValid = true → d.context.traceId = around.traceId

/-- What is exported of a span that this tracer has started, and that has one of these names. -/
def SpanData.IsOf (tracer : Tracer) (names : String → Prop) (d : SpanData) : Prop :=
  d.tracer = tracer.name ∧ names d.name

/-- The name that a call gives, if it gives one, is one of these. -/
def SpanCall.RenamesWithin (names : String → Prop) (c : SpanCall) : Prop :=
  ∀ name ∈ c.rename?, names name

/-- A span whose record, where there is one, is not lost but written to at most: calls that do not
end a span make this of it. If it has another name then, that is one of these. -/
structure Span.Written (names : String → Prop) (s s' : Span) : Prop where
  context : s'.context = s.context
  provider : s'.provider? = s.provider?
  released : s'.released = s.released
  records : s.poisoned = false → s.data?.isSome = true →
    s'.poisoned = false ∧ s'.data?.isSome = true
  parent : ∀ parent, s.NamesParent parent → s'.NamesParent parent
  isOf : ∀ (tracer : Tracer) (all : String → Prop), (∀ n, names n → all n) →
    s.Shows (SpanData.IsOf tracer all) → s'.Shows (SpanData.IsOf tracer all)

namespace Span.Written

variable {names : String → Prop}

theorem refl (s : Span) : s.Written names s :=
  ⟨rfl, rfl, rfl, fun h h' => ⟨h, h'⟩, fun _ h => h, fun _ _ _ h => h⟩

theorem mono {more : String → Prop} (hMore : ∀ n, names n → more n) {s s' : Span}
    (h : s.Written names s') : s.Written more s' :=
  { h with isOf := fun tracer all hAll => h.isOf tracer all fun n hn => hAll n (hMore n hn) }

theorem trans {s s' s'' : Span} (h : s.Written names s') (h' : s'.Written names s'') :
    s.Written names s'' where
  context := h'.context.trans h.context
  provider := h'.provider.trans h.provider
  released := h'.released.trans h.released
  records hPoisoned hData :=
    h'.records (h.records hPoisoned hData).1 (h.records hPoisoned hData).2
  parent parent hParent := h'.parent parent (h.parent parent hParent)
  isOf tracer all hAll hOf := h'.isOf tracer all hAll (h.isOf tracer all hAll hOf)

end Span.Written

namespace Telemetry

/-! ## Nothing loose -/

/-- All that was not released is held: a span by a holding, and a provider by a holding or by one of
its spans. -/
structure Calm (t : Telemetry) (held : List Holding) : Prop where
  span : ∀ (id : Nat) (s : Span), t.spans[id]? = some s → s.released = false →
    id ∈ reachedSpans held
  provider : ∀ (i : Nat) (q : Provider), t.providers[i]? = some q → q.released = false →
    i ∈ reachedProviders held ∨
      ∃ (id : Nat) (s : Span), t.spans[id]? = some s ∧ s.released = false ∧ s.provider? = some i

section Calm

variable {t : Telemetry} {held held' : List Holding}

theorem Calm.mono (h : Calm t held) (hSpans : ∀ id ∈ reachedSpans held, id ∈ reachedSpans held')
    (hProviders : ∀ i ∈ reachedProviders held, i ∈ reachedProviders held') : Calm t held' where
  span id s hSpan hKept := hSpans id (h.span id s hSpan hKept)
  provider i q hProvider hKept := (h.provider i q hProvider hKept).imp_left (hProviders i)

theorem Calm.cons (h : Calm t held) (x : Holding) : Calm t (x :: held) :=
  h.mono (fun _ hid => (List.sublist_cons_self x held).filterMap _ |>.subset hid)
    fun _ hi => (List.sublist_cons_self x held).filterMap _ |>.subset hi

/-- Only what is there of spans and providers matters. -/
theorem Calm.congr {t' : Telemetry} (h : Calm t held) (hSpans : t'.spans = t.spans)
    (hProviders : t'.providers = t.providers) : Calm t' held where
  span := by
    rw [hSpans]
    exact h.span
  provider := by
    rw [hSpans, hProviders]
    exact h.provider

/-- An act that adds nothing and releases nothing leaves nothing loose. -/
theorem Calm.after (h : Calm t held) {a : Act} (hSpans : t.newSpan? a = none)
    (hProviders : t.newProvider? a = none) (hSpan : ∀ id, a ≠ .releaseSpan id)
    (hProvider : ∀ i, a ≠ .releaseProvider i) : Calm (t.after a) held where
  span id s' hAfter hKept := by
    rcases span_after_cases hAfter with ⟨s, hBefore, rfl⟩ | ⟨-, hNew⟩
    · rw [released_onSpan hSpan] at hKept
      exact h.span id s hBefore hKept
    · rw [hSpans] at hNew
      cases hNew
  provider i q' hAfter hKept := by
    rcases provider_after_cases hAfter with ⟨q, hBefore, rfl⟩ | ⟨-, hNew⟩
    · rw [released_onProvider hProvider] at hKept
      refine (h.provider i q hBefore hKept).imp_right ?_
      rintro ⟨id, s, hSome, hLive, hOf⟩
      exact ⟨id, _, span_after hSome a, (released_onSpan hSpan id s).trans hLive,
        (provider?_onSpan a id s).trans hOf⟩
    · rw [hProviders] at hNew
      cases hNew

theorem Calm.callActive (h : Calm t held) (active : ActiveSpan) (c : SpanCall) :
    Calm (t.callActive active c).1 held :=
  h.after (a := .callActive active c) rfl rfl (fun _ hSame => nomatch hSame)
    fun _ hSame => nomatch hSame

/-- What has settled is calm: what was loose has been released. -/
theorem calm_settle (t : Telemetry) (held : List Holding) : Calm (t.settle held) held where
  span id s' hAfter hKept := by
    rw [span_settle] at hAfter
    obtain ⟨s, hBefore, rfl⟩ := Option.map_eq_some_iff.1 hAfter
    by_contra hNot
    by_cases hLoose : id ∈ t.looseSpans held
    · rw [if_pos hLoose] at hKept
      cases hKept
    · rw [if_neg hLoose] at hKept
      exact hLoose (mem_looseSpans.2 ⟨s, hBefore, hKept, hNot⟩)
  provider i q' hAfter hKept := by
    rw [provider_settle] at hAfter
    obtain ⟨q, hBefore, rfl⟩ := Option.map_eq_some_iff.1 hAfter
    by_cases hLoose : i ∈ t.looseProviders held
    · rw [if_pos hLoose] at hKept
      cases hKept
    rw [if_neg hLoose] at hKept
    by_contra hNone
    rw [not_or] at hNone
    refine hLoose (mem_looseProviders.2 ⟨q, hBefore, hKept, hNone.1, fun s hs hOf => ?_⟩)
    obtain ⟨id, hSpan⟩ := List.mem_iff_getElem?.1 hs
    by_contra hLive
    exact hNone.2 ⟨id, s, hSpan, Bool.eq_false_iff.2 hLive, hOf⟩

/-- Where nothing is loose, settling does nothing. -/
theorem settle_of_calm (h : Calm t held) : t.settle held = t := by
  have hSpans : t.looseSpans held = [] := by
    refine List.eq_nil_iff_forall_not_mem.2 fun id hLoose => ?_
    obtain ⟨s, hSpan, hKept, hNot⟩ := mem_looseSpans.1 hLoose
    exact hNot (h.span id s hSpan hKept)
  have hSame : (t.settle held).spans = t.spans := by
    rw [spans_settle, withoutLooseSpans, hSpans]
    rfl
  have hProviders : t.looseProviders held = [] := by
    refine List.eq_nil_iff_forall_not_mem.2 fun i hLoose => ?_
    obtain ⟨q, hProvider, hKept, hNot, hAll⟩ := mem_looseProviders.1 hLoose
    rcases h.provider i q hProvider hKept with hReached | ⟨id, s, hSpan, hLive, hOf⟩
    · exact hNot hReached
    · have hReleased := hAll s (hSame ▸ List.mem_of_getElem? hSpan) hOf
      rw [hLive] at hReleased
      cases hReleased
  rw [settle_eq_afterAll, releases, hSpans, hProviders]
  rfl

/-- A span that is loose is all that settling releases if then nothing is loose any more. -/
theorem settle_eq_releaseSpan {n : Nat} {s : Span} (hSpan : t.spans[n]? = some s)
    (hKept : s.released = false) (hNot : n ∉ reachedSpans held)
    (h : Calm (t.releaseSpan n) held) : t.settle held = t.releaseSpan n := by
  have hMem : ∀ id, id ∈ t.looseSpans held ↔ id ∈ [n] := by
    intro id
    rw [mem_looseSpans, List.mem_singleton]
    constructor
    · rintro ⟨other, hOther, hOtherKept, hOtherNot⟩
      by_cases hSame : n = id
      · exact hSame.symm
      · have hStill : (t.releaseSpan n).spans[id]? = some other := by
          have hAfter := span_after hOther (.releaseSpan n)
          rw [Act.onSpan, if_neg hSame] at hAfter
          exact hAfter
        exact absurd (h.span id other hStill hOtherKept) hOtherNot
    · rintro rfl
      exact ⟨s, hSpan, hKept, hNot⟩
  have hSpans : t.looseSpans held = [n] := by
    have hNodup : (t.looseSpans held).Nodup := List.nodup_range.filter _
    exact List.perm_singleton.1
      ((List.perm_ext_iff_of_nodup hNodup (List.nodup_singleton n)).2 hMem)
  have hSame : (t.settle held).spans = (t.releaseSpan n).spans := by
    rw [spans_settle, withoutLooseSpans, hSpans]
    rfl
  have hProviders : t.looseProviders held = [] := by
    refine List.eq_nil_iff_forall_not_mem.2 fun i hLoose => ?_
    obtain ⟨q, hProvider, hProviderKept, hProviderNot, hAll⟩ := mem_looseProviders.1 hLoose
    have hStill : (t.releaseSpan n).providers[i]? = some q :=
      provider_after hProvider (.releaseSpan n)
    rcases h.provider i q hStill hProviderKept with hReached | ⟨id, other, hOther, hLive, hOf⟩
    · exact hProviderNot hReached
    · have hReleased := hAll other (hSame ▸ List.mem_of_getElem? hOther) hOf
      rw [hLive] at hReleased
      cases hReleased
  rw [settle_eq_afterAll, releases, hSpans, hProviders]
  rfl

end Calm

/-! ## Spans that begin -/

/-- A provider that is there and records. -/
def Live (t : Telemetry) (p : Nat) : Prop := ∃ q, t.providers[p]? = some q ∧ q.Records

theorem isClosed_of_live {t : Telemetry} {p : Nat} (h : Live t p) : t.isClosed p = false := by
  obtain ⟨q, hProvider, hRecords⟩ := h
  rw [isClosed_eq hProvider]
  exact hRecords.closed

/-- A provider records that a plan makes which names no source of identifiers, and no sampler but
one that records every such span: a random generator hands out no zero. -/
theorem live_planned {plan : ProviderPlan} (hIds : plan.ids? = none)
    (hSampler : plan.sampler? = none ∨ plan.sampler? = some .alwaysOn ∨
      plan.sampler? = some (.parentBased .alwaysOn)) (t : Telemetry) (env : Surroundings) :
    Live (t.addPlanned plan env).1 (t.addPlanned plan env).2 := by
  let random := env.random t.providers.length
  let made : Provider := ⟨plan.exporters, plan.sampler?.getD .standard,
    plan.ids?.getD (.random random), (plan.limits env).1, false, false⟩
  refine ⟨made, ?_, rfl, ?_, fun n => ?_, fun n => ?_⟩
  · unfold addPlanned
    dsimp only
    rw [foldl_report]
    exact List.getElem?_concat_length
  · rcases hSampler with h | h | h <;> simp [made, h, Sampler.standard]
  · rw [show made.ids = .random random by simp [made, hIds]]
    exact random.trace_ne_zero n
  · rw [show made.ids = .random random by simp [made, hIds]]
    exact random.span_ne_zero n

/-- What a span is that a tracer begins where the parent, if it is valid, is sampled. -/
structure Begins (tracer : Tracer) (name : String) (parent : SpanContext) (s : Span) : Prop where
  valid : s.context.isValid = true
  sampled : s.context.isSampled = true
  traceId : parent.isValid = true → s.context.traceId = parent.traceId
  provider : s.provider? = some tracer.provider
  poisoned : s.poisoned = false
  released : s.released = false
  data : s.data?.isSome = true
  parent : s.NamesParent (if parent.isValid then parent.spanId else .invalid)
  isOf : s.Shows (SpanData.IsOf tracer (· = name))

section Beginnings

variable {q : Provider} (h : q.Records)
include h

theorem decision_beginning {cx : Context}
    (hSampled : cx.spanContext.isValid = true → cx.spanContext.isSampled = true) (name : String) :
    (beginning q name cx).result.decision = .recordAndSample := by
  have hAnswer : ∀ traceId,
      (q.sampler.sample ⟨some cx, traceId, name, [], []⟩).decision = .recordAndSample := by
    intro traceId
    rcases h.sampler with hSampler | hSampler <;> rw [hSampler]
    · rfl
    · cases hValid : cx.spanContext.isValid with
      | true =>
        simp [Sampler.sample, Sampler.decision, SamplingQuery.validParent?, hValid, hSampled]
      | false => simp [Sampler.sample, Sampler.decision, SamplingQuery.validParent?, hValid]
  exact hAnswer _

/-- No identifier that is drawn is zero, and one that is taken over is valid. -/
theorem isValid_beginning (name : String) (cx : Context) :
    (beginning q name cx).context.isValid = true := by
  have hSpan : (beginning q name cx).context.spanId.isValid = true := by
    cases hValid : cx.spanContext.isValid <;> simp only [beginning, hValid] <;> exact h.span _
  have hTrace : (beginning q name cx).context.traceId.isValid = true := by
    cases hValid : cx.spanContext.isValid with
    | true =>
      simp only [beginning, hValid]
      exact (Bool.and_eq_true_iff.1 hValid).1
    | false =>
      simp only [beginning, hValid]
      exact h.trace _
  rw [SpanContext.isValid, hTrace, hSpan]
  rfl

theorem isSampled_beginning {cx : Context}
    (hSampled : cx.spanContext.isValid = true → cx.spanContext.isSampled = true) (name : String) :
    (beginning q name cx).context.isSampled = true := by
  have hFlags : (beginning q name cx).context.flags = cx.spanContext.flags.withSampled
      ((beginning q name cx).result.decision == .recordAndSample) := rfl
  rw [SpanContext.isSampled, hFlags, TraceFlags.isSampled_withSampled,
    decision_beginning h hSampled name]
  rfl

end Beginnings

/-- A live provider makes of every such call a span that records and is sampled. -/
theorem begun_of_live {t : Telemetry} {tracer : Tracer} {cx : Context}
    (hLive : Live t tracer.provider)
    (hSampled : cx.spanContext.isValid = true → cx.spanContext.isSampled = true) (name : String) :
    Begins tracer name cx.spanContext (t.begun tracer name cx) := by
  obtain ⟨q, hProvider, hRecords⟩ := hLive
  have hDecision := decision_beginning hRecords hSampled name
  rw [begun_of_open hProvider hRecords.closed,
    Beginning.record?_of_ne_drop (by rw [hDecision]; exact SamplingDecision.noConfusion)]
  constructor
  case valid => exact isValid_beginning hRecords name cx
  case sampled => exact isSampled_beginning hRecords hSampled name
  case traceId =>
    intro hValid
    show (beginning q name cx).context.traceId = _
    simp only [beginning, hValid, if_true]
  case parent =>
    have hParent : (beginning q name cx).parent =
        if cx.spanContext.isValid then cx.spanContext.spanId else .invalid := rfl
    intro d hd
    simp only [Span.data?, Span.fresh, Option.some.injEq] at hd
    rw [← hd, ← hParent]
    exact SpanRecord.parent_apply _ _ _
  case isOf =>
    intro d hd
    simp only [Span.data?, Span.fresh, Option.some.injEq] at hd
    rw [← hd]
    exact ⟨rfl, SpanRecord.name_apply _ _ _⟩
  case provider | poisoned | released | data => rfl

/-! ## Pieces of a run -/

/-- An act that does not end a span writes to it at most. -/
theorem written_onSpan {names : String → Prop} {a : Act} {id : Nat} (h : a.ended? ≠ some id)
    (hNames : ∀ c ∈ a.call?, c.RenamesWithin names) (s : Span) :
    s.Written names (a.onSpan id s) where
  context := context_onSpan a id s
  provider := provider?_onSpan a id s
  released := by
    by_cases hRelease : ∃ other, a = .releaseSpan other
    · obtain ⟨other, rfl⟩ := hRelease
      have hNe : other ≠ id := by
        rintro rfl
        exact h rfl
      rw [Act.onSpan, if_neg hNe]
    · exact released_onSpan (fun other hEq => hRelease ⟨other, hEq⟩) id s
  records hPoisoned hData := by
    refine ⟨?_, by rw [isSome_data?_onSpan a id hPoisoned, hData, bne_iff_ne.2 h]; rfl⟩
    rw [← Bool.not_eq_true]
    intro hFailed
    obtain ⟨data, hSome⟩ := Option.isSome_iff_exists.1 hData
    obtain ⟨p, hProvider⟩ := Span.provider?_of_data? hSome
    rcases poisoned_onSpan hFailed with hBefore | hNone
    · rw [hPoisoned] at hBefore
      cases hBefore
    · rw [hProvider] at hNone
      cases hNone
  parent _ hParent := namesParent_onSpan hParent a id
  isOf tracer all hAll hOf := by
    refine shows_onSpan hOf (fun c hc l r context other hBefore => ⟨hBefore.1, ?_⟩) id
    show all (r.apply l c).name
    rw [SpanRecord.name_apply]
    cases hName : c.rename? with
    | none => exact hBefore.2
    | some n => exact hAll n (hNames c hc n hName)

/-- The identities of all spans, in the order in which they were started. -/
def identities (t : Telemetry) : List SpanContext := t.spans.map Span.context

/-- An act leaves the spans that there are who they are. -/
theorem identities_after (t : Telemetry) (a : Act) :
    (t.after a).identities = t.identities ++ (t.newSpan? a).toList.map Span.context := by
  have hOld : (t.spans.mapIdx a.onSpan).map Span.context = t.spans.map Span.context := by
    refine List.ext_getElem? fun id => ?_
    rw [List.getElem?_map, List.getElem?_map, List.getElem?_mapIdx, Option.map_map]
    exact congrArg (fun f => Option.map f t.spans[id]?) (funext fun s => context_onSpan a id s)
  rw [identities, spans_after, List.map_append, hOld, identities]

/-- The calls by which an exporter receives spans of a provider, one after the other. -/
def arrivals (t : Telemetry) (p e : Nat) (spans : List SpanData) : List ExporterCall :=
  spans.flatMap fun d => t.receipts e (some (p, d))

/-- A piece of a run by which a provider exports some spans. It writes to the spans that were there
before at most, giving them no other names than these, and has released all that it started. -/
structure Spends (p : Nat) (names : String → Prop) (spans : List SpanData) (t t' : Telemetry) :
    Prop where
  old : ∀ (id : Nat) (s : Span), t.spans[id]? = some s →
    ∃ s', t'.spans[id]? = some s' ∧ s.Written names s'
  new : ∀ (id : Nat) (s : Span), t.spans.length ≤ id → t'.spans[id]? = some s → s.released = true
  released : t'.providers.map Provider.released = t.providers.map Provider.released
  exportersOf : t'.exportersOf p = t.exportersOf p
  live : Live t p → Live t' p
  sound : Sound t → Sound t'
  callsOf : Sound t → ∀ e, t'.callsOf e = t.callsOf e ++ t.arrivals p e spans

namespace Spends

variable {t t' t'' : Telemetry} {p : Nat} {names : String → Prop}
  {spans others : List SpanData}

theorem refl : Spends p names [] t t where
  old _ s hSpan := ⟨s, hSpan, .refl s⟩
  new _ _ hNew hSpan := by
    rw [List.getElem?_eq_none hNew] at hSpan
    cases hSpan
  released := rfl
  exportersOf := rfl
  live := id
  sound := id
  callsOf _ _ := (List.append_nil _).symm

theorem mono {more : String → Prop} (hMore : ∀ n, names n → more n)
    (h : Spends p names spans t t') : Spends p more spans t t' :=
  { h with
    old := fun id s hSpan =>
      let ⟨s', hSpan', hWritten⟩ := h.old id s hSpan
      ⟨s', hSpan', hWritten.mono hMore⟩ }

theorem arrivals_congr (h : t'.exportersOf p = t.exportersOf p) (e : Nat) :
    t'.arrivals p e spans = t.arrivals p e spans := by
  simp only [arrivals, receipts, h]

theorem arrivals_append (e : Nat) :
    t.arrivals p e (spans ++ others) = t.arrivals p e spans ++ t.arrivals p e others := by
  simp only [arrivals, List.flatMap_append]

theorem length_le (h : Spends p names spans t t') : t.spans.length ≤ t'.spans.length := by
  by_contra hLess
  have hLast : t'.spans.length < t.spans.length := by omega
  obtain ⟨s', hSpan, -⟩ := h.old _ _ (List.getElem?_eq_getElem hLast)
  rw [List.getElem?_eq_none (Nat.le_refl _)] at hSpan
  cases hSpan

theorem trans (h : Spends p names spans t t') (h' : Spends p names others t' t'') :
    Spends p names (spans ++ others) t t'' where
  old id s hSpan := by
    obtain ⟨s', hSpan', hWritten⟩ := h.old id s hSpan
    obtain ⟨s'', hSpan'', hAgain⟩ := h'.old id s' hSpan'
    exact ⟨s'', hSpan'', hWritten.trans hAgain⟩
  new id s hNew hSpan := by
    cases hMiddle : t'.spans[id]? with
    | none => exact h'.new id s (List.getElem?_eq_none_iff.1 hMiddle) hSpan
    | some s' =>
      obtain ⟨s'', hSpan'', hWritten⟩ := h'.old id s' hMiddle
      rw [hSpan] at hSpan''
      obtain rfl := Option.some.inj hSpan''
      rw [hWritten.released]
      exact h.new id s' hNew hMiddle
  released := h'.released.trans h.released
  exportersOf := h'.exportersOf.trans h.exportersOf
  live hLive := h'.live (h.live hLive)
  sound hSound := h'.sound (h.sound hSound)
  callsOf hSound e := by
    rw [h'.callsOf (h.sound hSound), h.callsOf hSound, arrivals_congr h.exportersOf,
      arrivals_append, List.append_assoc]

/-- What is calm stays so. -/
theorem calm (h : Spends p names spans t t') {held : List Holding} (hCalm : Calm t held) :
    Calm t' held where
  span id s hSpan hKept := by
    cases hBefore : t.spans[id]? with
    | none =>
      have hReleased := h.new id s (List.getElem?_eq_none_iff.1 hBefore) hSpan
      rw [hKept] at hReleased
      cases hReleased
    | some s₀ =>
      obtain ⟨s', hSpan', hWritten⟩ := h.old id s₀ hBefore
      rw [hSpan] at hSpan'
      obtain rfl := Option.some.inj hSpan'
      exact hCalm.span id s₀ hBefore (by rw [← hWritten.released, hKept])
  provider i q hProvider hKept := by
    have hReleased : (t.providers.map Provider.released)[i]? = some false := by
      rw [← h.released, List.getElem?_map, hProvider, Option.map_some, hKept]
    rw [List.getElem?_map] at hReleased
    obtain ⟨q₀, hBefore, hKept₀⟩ := Option.map_eq_some_iff.1 hReleased
    refine (hCalm.provider i q₀ hBefore hKept₀).imp_right ?_
    rintro ⟨id, s₀, hSpan, hLive, hOf⟩
    obtain ⟨s', hSpan', hWritten⟩ := h.old id s₀ hSpan
    exact ⟨id, s', hSpan', by rw [hWritten.released, hLive], by rw [hWritten.provider, hOf]⟩

/-- A call through a context that does not end the span is such a piece. -/
theorem callActive (active : ActiveSpan) {c : SpanCall} (h : c.ends? = none)
    (hNames : c.RenamesWithin names) : Spends p names [] t (t.callActive active c).1 := by
  have hProviders : (t.callActive active c).1.providers = t.providers :=
    providers_callActive t active c
  have hEnds : (Act.callActive active c).ended? = none := by
    rw [Act.ended?, h]
    cases active.span? <;> rfl
  constructor
  case old =>
    intro id s hSpan
    refine ⟨_, span_after hSpan (.callActive active c), written_onSpan ?_ ?_ s⟩
    · rw [hEnds]
      rintro ⟨⟩
    · rintro _ ⟨⟩
      exact hNames
  case new =>
    intro id s hNew hSpan
    rcases span_after_cases (a := .callActive active c) hSpan with ⟨s₀, hBefore, -⟩ | ⟨-, hAdded⟩
    · rw [List.getElem?_eq_none hNew] at hBefore
      cases hBefore
    · cases hAdded
  case released => rw [hProviders]
  case exportersOf => rw [Telemetry.exportersOf, hProviders]; rfl
  case live =>
    rintro ⟨q, hProvider, hRecords⟩
    exact ⟨q, by rw [hProviders, hProvider], hRecords⟩
  case sound => exact fun hSound => hSound.after (.callActive active c)
  case callsOf =>
    intro hSound e
    have hNone : (Act.callActive active c).ends? t.now = none := by
      rw [← Option.map_eq_none_iff, Act.map_fst_ends?, hEnds]
    have hTold : t.told (.callActive active c) e = [] := by
      show t.receipts e (((Act.callActive active c).ends? t.now).bind _) = []
      rw [hNone]
      rfl
    exact (callsOf_after hSound (.callActive active c) e).trans (by rw [hTold]; rfl)

/-- So is time that passes. -/
theorem elapse (now : Timestamp) : Spends p names [] t (t.elapse now) where
  old _ s hSpan := ⟨s, hSpan, .refl s⟩
  new _ _ hNew hSpan := by
    rw [Telemetry.elapse, List.getElem?_eq_none hNew] at hSpan
    cases hSpan
  released := rfl
  exportersOf := rfl
  live := id
  sound hSound := hSound.after (.elapse now)
  callsOf _ _ := (List.append_nil _).symm

end Spends

/-! ## The life of a span -/

section Life

variable {t : Telemetry} {tracer : Tracer} {name : String} {cx : Context}

/-- A provider goes on recording after a start. -/
theorem live_start (h : Live t tracer.provider) :
    Live (t.start tracer name cx).1 tracer.provider := by
  obtain ⟨q, hProvider, hRecords⟩ := h
  have hAfter := provider_after hProvider (.start tracer name cx)
  rw [Act.onProvider, if_pos ⟨rfl, hRecords.closed⟩] at hAfter
  refine ⟨_, hAfter, ?_⟩
  have hIds : (beginning q name cx).provider.ids.traceAt = q.ids.traceAt ∧
      (beginning q name cx).provider.ids.spanAt = q.ids.spanAt := by
    cases hValid : cx.spanContext.isValid <;> simp only [beginning, hValid] <;> exact ⟨rfl, rfl⟩
  exact ⟨hRecords.closed, hRecords.sampler, by rw [hIds.1]; exact hRecords.trace,
    by rw [hIds.2]; exact hRecords.span⟩

/-- Starting a span releases no provider. -/
theorem released_start :
    (t.start tracer name cx).1.providers.map Provider.released =
      t.providers.map Provider.released := by
  refine List.ext_getElem? fun i => ?_
  rw [providers_start, List.getElem?_map, List.getElem?_map, List.getElem?_modify]
  cases t.providers[i]? with
  | none => rfl
  | some q =>
    by_cases hSame : tracer.provider = i <;> cases hClosed : q.closed <;>
      simp [hSame, hClosed, beginning]

/-- No exporter is called when a span starts. -/
theorem callsOf_start (hSound : Sound t) (e : Nat) :
    (t.start tracer name cx).1.callsOf e = t.callsOf e :=
  (callsOf_after hSound (.start tracer name cx) e).trans (List.append_nil _)

/-- A release is the same after the end of the span as without it. -/
theorem releaseSpan_finish {active : ActiveSpan} {n : Nat} {s : Span}
    (hActive : active.span? = some n) (hSpan : t.spans[n]? = some s)
    (hPoisoned : s.poisoned = false) (hData : s.data?.isSome = true) :
    (t.callActive active (.finish t.now)).1.releaseSpan n = t.releaseSpan n := by
  have hEnd : (t.callActive active (.finish t.now)).1 = t.finish n t.now := by
    rcases hKind : s.kind with _ | ⟨journal, finished⟩ | ⟨_ | r, other, limits⟩ <;>
      simp only [Span.data?, hKind] at hData
    · cases hData
    · cases hData
    · cases hData
    · simp [Telemetry.callActive, hActive, hSpan, hPoisoned, call, hKind]
  have hGone : (t.finish n t.now).dataOf? n = none := by
    rw [dataOf?, spans_finish, List.getElem?_modify_eq, hSpan]
    exact Span.data?_ended s
  rw [hEnd, releaseSpan, finish_eq_self hGone]
  rfl

/-- A span that is released with its record is handed on as it was then. -/
theorem delivery?_of_live {p n : Nat} {s : Span} {data : SpanData} (hLive : Live t p)
    (hSpan : t.spans[n]? = some s) (hProvider : s.provider? = some p)
    (hSampled : s.context.isSampled = true) (hData : s.data? = some data) (time : Timestamp) :
    t.delivery? n time = some (p, { data with finish := time }) := by
  simp [delivery?, hSpan, hData, hProvider, isClosed_of_live hLive, hSampled]

/-- The release of a span calls the exporters of its provider with what it hands on. -/
theorem callsOf_releaseSpan {p n : Nat} {d : SpanData} (hSound : Sound t)
    (hDelivery : t.delivery? n t.now = some (p, d)) (e : Nat) :
    (t.releaseSpan n).callsOf e = t.callsOf e ++ t.arrivals p e [d] := by
  refine (callsOf_after hSound (.releaseSpan n) e).trans ?_
  have hTold : t.told (.releaseSpan n) e = t.arrivals p e [d] := by
    show t.receipts e (t.delivery? n t.now) = _
    rw [hDelivery, arrivals, List.flatMap_singleton]
  rw [hTold]

/-- What would be exported of a span names the span. -/
theorem context_of_data? {s : Span} {data : SpanData} (h : s.data? = some data) :
    data.context = s.context := by
  unfold Span.data? at h
  split at h
  · cases h
    rfl
  · cases h

/-- The life of a span is a piece of a run that exports what is exported while it lasts, and then
the span: the child of the span that the context carries, if that is valid, with the name that it
was started with or one that it was given meanwhile. -/
theorem spends_life {t' : Telemetry} {inner : List SpanData} {names : String → Prop}
    (hLive : Live t tracer.provider) (hSound : Sound t)
    (hSampled : cx.spanContext.isValid = true → cx.spanContext.isSampled = true)
    (h : Spends tracer.provider names inner (t.start tracer name cx).1 t') :
    ∃ d : SpanData, d.context = (t.begun tracer name cx).context ∧ d.ChildOf cx.spanContext ∧
      d.IsOf tracer (fun n => n = name ∨ names n) ∧
      Spends tracer.provider names (inner ++ [d]) t (t'.releaseSpan t.spans.length) := by
  have hBegins := begun_of_live hLive hSampled name
  have hNew : (t.start tracer name cx).1.spans[t.spans.length]? =
      some (t.begun tracer name cx) := by
    have hStart := span_start t tracer name cx
    rw [snd_start] at hStart
    exact hStart
  have hLength : (t.start tracer name cx).1.spans.length = t.spans.length + 1 := by
    rw [spans_start, List.length_append]
    rfl
  obtain ⟨s, hSpan, hWritten⟩ := h.old _ _ hNew
  obtain ⟨hPoisoned, hSome⟩ := hWritten.records hBegins.poisoned hBegins.data
  obtain ⟨data, hData⟩ := Option.isSome_iff_exists.1 hSome
  have hProviders : (t'.releaseSpan t.spans.length).providers = t'.providers :=
    providers_finish t' _ t'.now
  have hStartSound : Sound (t.start tracer name cx).1 := hSound.after (.start tracer name cx)
  have hDelivery := delivery?_of_live (h.live (live_start hLive)) hSpan
    (hWritten.provider.trans hBegins.provider)
    (by rw [hWritten.context]; exact hBegins.sampled) hData t'.now
  have hExporters : t'.exportersOf tracer.provider = t.exportersOf tracer.provider := by
    rw [h.exportersOf]
    obtain ⟨q, hProvider, -⟩ := hLive
    exact exportersOf_after (List.getElem?_eq_some_iff.1 hProvider).1 (.start tracer name cx)
  have hContext : data.context = (t.begun tracer name cx).context :=
    (context_of_data? hData).trans hWritten.context
  have hChild : SpanData.ChildOf cx.spanContext { data with finish := t'.now } :=
    ⟨hContext ▸ hBegins.valid, hContext ▸ hBegins.sampled,
      hWritten.parent _ hBegins.parent data hData, hContext ▸ hBegins.traceId⟩
  have hOf : data.IsOf tracer (fun n => n = name ∨ names n) := by
    refine hWritten.isOf tracer _ (fun _ => Or.inr) ?_ data hData
    exact fun d hd => ⟨(hBegins.isOf d hd).1, Or.inl (hBegins.isOf d hd).2⟩
  refine ⟨{ data with finish := t'.now }, hContext, hChild, hOf, ?_⟩
  constructor
  case old =>
    intro id s₀ hBefore
    have hLt : id < t.spans.length := (List.getElem?_eq_some_iff.1 hBefore).1
    have hNe : t.spans.length ≠ id := by omega
    obtain ⟨s', hSpan', hWritten'⟩ := h.old id s₀ (span_after hBefore (.start tracer name cx))
    have hAfter := span_after hSpan' (.releaseSpan t.spans.length)
    rw [Act.onSpan, if_neg hNe] at hAfter
    exact ⟨s', hAfter, hWritten'⟩
  case new =>
    intro id s' hLe hAfter
    rcases span_after_cases (a := .releaseSpan t.spans.length) hAfter with
      ⟨s₀, hBefore, rfl⟩ | ⟨-, hAdded⟩
    · rw [Act.onSpan]
      split
      · rfl
      · rename_i hNe
        exact h.new id s₀ (by omega) hBefore
    · cases hAdded
  case released => rw [hProviders, h.released, released_start]
  case exportersOf =>
    rw [← hExporters, exportersOf, hProviders]
    rfl
  case live =>
    intro _
    obtain ⟨q, hProvider, hRecords⟩ := h.live (live_start hLive)
    exact ⟨q, by rw [hProviders, hProvider], hRecords⟩
  case sound => exact fun _ => (h.sound hStartSound).after (.releaseSpan t.spans.length)
  case callsOf =>
    intro _ e
    have hArrivals : (t.start tracer name cx).1.arrivals tracer.provider e inner =
        t.arrivals tracer.provider e inner :=
      Spends.arrivals_congr (h.exportersOf.symm.trans hExporters) e
    rw [callsOf_releaseSpan (h.sound hStartSound) hDelivery, h.callsOf hStartSound,
      callsOf_start hSound, hArrivals, Spends.arrivals_congr hExporters, Spends.arrivals_append,
      List.append_assoc]

end Life

end Telemetry

end SpanFlow
