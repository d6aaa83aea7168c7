import SpanFlow.Proofs.Propagation.TraceChain

/-!
# Spans below an identity that is not valid

A context can carry the identity of a span that is not valid. A span that is started there begins a
trace of its own and has no parent, just as in a context without a span. The built-in samplers
decide the same in both, because the only thing that they look at is a valid parent.

Two things are taken over from the identity without asking whether it is valid: its flags, of which
the sampled bit alone is set anew, and its trace state, which the samplers hand on. The two spans
are therefore identified alike just if there is nothing in either.

## Main results

* `Sampler.decision_of_isPlain`: what plain samplers decide where there is no valid parent.
* `begun_of_not_isValid`: the span that is started where there is no valid parent.
* `started_below_invalid`: such a span beside one that is started without any parent.
-/

namespace SpanFlow

namespace TraceFlags

/-- Setting the sampled bit leaves of two sets of flags the same just if they agree in the others;
here one of them is empty. -/
theorem withSampled_eq_none_iff (f : TraceFlags) (on : Bool) :
    f.withSampled on = none.withSampled on ↔ f.inter sampled.compl = none := by
  cases on with
  | false =>
    have hEmpty : none.withSampled false = none := by decide
    rw [hEmpty]
    rfl
  | true =>
    have hBits : ∀ b : BitVec 8, b ||| 1#8 = 0#8 ||| 1#8 ↔ b &&& ~~~1#8 = 0#8 := by decide
    have h := hBits f.bits.toBitVec
    simpa [withSampled, union, inter, compl, sampled, none, ← UInt8.toBitVec_inj] using h

end TraceFlags

namespace Sampler

/-- A sampler that is built in at all its levels. -/
def IsPlain : Sampler → Prop
  | alwaysOn => True
  | alwaysOff => True
  | parentBased delegate => delegate.IsPlain
  | custom _ => False

/-- What a sampler decides about a span without a parent. -/
def rootDecision (s : Sampler) : SamplingDecision := s.decision ⟨none, .invalid, "", [], []⟩

/-- Where there is no valid parent, a plain sampler looks at nothing. -/
theorem decision_of_isPlain {s : Sampler} (h : s.IsPlain) {q : SamplingQuery}
    (hNone : q.validParent? = none) : s.decision q = s.rootDecision := by
  induction s with
  | alwaysOn => rfl
  | alwaysOff => rfl
  | parentBased delegate ih =>
    rw [decision, hNone]
    exact ih h
  | custom rule => cases h

theorem sample_of_isPlain {s : Sampler} (h : s.IsPlain) (q : SamplingQuery) :
    s.sample q = ⟨s.decision q, [], q.parentState⟩ := by
  cases s with
  | custom rule => cases h
  | _ => rfl

end Sampler

theorem Context.spanContext_of_hasSpan {cx : Context} (h : cx.hasSpan = false) :
    cx.spanContext = .none := by
  rw [hasSpan, Option.isSome_eq_false_iff, Option.isNone_iff_eq_none] at h
  rw [spanContext, activeSpan, h]
  rfl

namespace Telemetry

/-! ## Starting where there is no valid parent -/

section Start

variable {t : Telemetry} {tracer : Tracer} {name : String} {cx : Context} {p : Provider}

/-- What a provider with a plain sampler gives to a span that is started where there is no valid
parent. -/
theorem beginning_of_not_isValid (hPlain : p.sampler.IsPlain)
    (hInvalid : cx.spanContext.isValid = false) :
    beginning p name cx =
      ⟨⟨p.ids.nextSpan.2.nextTrace.1, p.ids.nextSpan.1,
          cx.spanContext.flags.withSampled (p.sampler.rootDecision == .recordAndSample),
          cx.spanContext.state⟩,
        .invalid, ⟨p.sampler.rootDecision, [], cx.spanContext.state⟩, p.limits.next.1,
        { p with ids := p.ids.nextSpan.2.nextTrace.2, limits := p.limits.next.2 }⟩ := by
  have hAnswer : p.sampler.sample ⟨some cx, p.ids.nextSpan.2.nextTrace.1, name, [], []⟩ =
      ⟨p.sampler.rootDecision, [], cx.spanContext.state⟩ := by
    rw [Sampler.sample_of_isPlain hPlain,
      Sampler.decision_of_isPlain hPlain (by simp [SamplingQuery.validParent?, hInvalid])]
    rfl
  simp only [beginning, hInvalid, Bool.false_eq_true, if_false, hAnswer]

/-- What a plain sampler has recorded of a span that begins without a parent. -/
def rootRecord? (p : Provider) (name : String) (now : Timestamp) : Option SpanRecord :=
  match p.sampler.rootDecision with
  | .drop => none
  | _ => some (.started .invalid name now)

/-- The identity that a provider gives to a span that begins without a parent, the flags and the
trace state being given. -/
def rootContext (p : Provider) (flags : TraceFlags) (state : TraceState) : SpanContext :=
  ⟨p.ids.nextSpan.2.nextTrace.1, p.ids.nextSpan.1,
    flags.withSampled (p.sampler.rootDecision == .recordAndSample), state⟩

/-- Such a span. -/
def rootSpan (p : Provider) (tracer : Tracer) (name : String) (now : Timestamp)
    (flags : TraceFlags) (state : TraceState) : Span :=
  .fresh (rootContext p flags state) (.recorded (rootRecord? p name now) tracer p.limits.next.1)

theorem isSampled_rootContext (flags : TraceFlags) (state : TraceState) :
    (rootContext p flags state).isSampled = (p.sampler.rootDecision == .recordAndSample) :=
  TraceFlags.isSampled_withSampled _ _

theorem rootContext_eq_iff (flags : TraceFlags) (state : TraceState) :
    rootContext p flags state = rootContext p .none .empty ↔
      flags.inter TraceFlags.sampled.compl = .none ∧ state = .empty := by
  rw [rootContext, rootContext, SpanContext.mk.injEq, TraceFlags.withSampled_eq_none_iff]
  exact ⟨fun h => h.2.2, fun h => ⟨rfl, rfl, h⟩⟩

theorem record_rootSpan (now : Timestamp) (flags : TraceFlags) (state : TraceState) :
    (rootSpan p tracer name now flags state).data?.map SpanData.toSpanRecord =
      rootRecord? p name now := by
  rw [rootSpan, Span.fresh]
  cases hRecord : rootRecord? p name now <;> rfl

theorem parent_of_rootRecord? {r : SpanRecord} {now : Timestamp}
    (h : rootRecord? p name now = some r) :
    r.parent = .invalid := by
  unfold rootRecord? at h
  split at h
  · cases h
  · cases h
    rfl

variable (hProvider : t.providers[tracer.provider]? = some p) (hOpen : p.closed = false)
  (hPlain : p.sampler.IsPlain) (hInvalid : cx.spanContext.isValid = false)
include hProvider hOpen hPlain hInvalid

/-- Of the context, only the flags and the trace state have a part in such a span. -/
theorem begun_of_not_isValid :
    t.begun tracer name cx =
      rootSpan p tracer name t.now cx.spanContext.flags cx.spanContext.state := by
  simp only [begun_of_open hProvider hOpen, beginning_of_not_isValid hPlain hInvalid, rootSpan,
    rootContext, rootRecord?, Beginning.record?]
  cases p.sampler.rootDecision <;> rfl

theorem providers_start_of_not_isValid :
    (t.start tracer name cx).1.providers = t.providers.modify tracer.provider fun _ =>
      { p with ids := p.ids.nextSpan.2.nextTrace.2, limits := p.limits.next.2 } := by
  simp only [start, hProvider, hOpen, beginning_of_not_isValid hPlain hInvalid]
  rfl

end Start

/-! ## Beside a start without any parent -/

/-- Two starts of a span that agree in the identifiers and the sampled bit that the span gets, in
what it records, and in what the providers are left with. -/
structure StartedAlike (plain below : Telemetry × Nat) : Prop where
  traceId : (below.1.activeSpan below.2).context.traceId =
    (plain.1.activeSpan plain.2).context.traceId
  spanId : (below.1.activeSpan below.2).context.spanId = (plain.1.activeSpan plain.2).context.spanId
  isSampled : (below.1.activeSpan below.2).context.isSampled =
    (plain.1.activeSpan plain.2).context.isSampled
  isRecording : below.1.isRecording below.2 = plain.1.isRecording plain.2
  record : (below.1.dataOf? below.2).map SpanData.toSpanRecord =
    (plain.1.dataOf? plain.2).map SpanData.toSpanRecord
  providers : below.1.providers = plain.1.providers

section Below

variable {t : Telemetry} {tracer : Tracer} {name : String} {cx : Context} {p : Provider}

/-- What two spans have in common that begin without a parent at the same provider. -/
theorem startedAlike_of_rootSpan {plain below : Telemetry × Nat} {flags flags' : TraceFlags}
    {state state' : TraceState} {now : Timestamp}
    (hSpan : plain.1.spans[plain.2]? = some (rootSpan p tracer name now flags state))
    (hSpan' : below.1.spans[below.2]? = some (rootSpan p tracer name now flags' state'))
    (hProviders : below.1.providers = plain.1.providers) : StartedAlike plain below where
  traceId := by
    rw [activeSpan, activeSpan, hSpan, hSpan']
    rfl
  spanId := by
    rw [activeSpan, activeSpan, hSpan, hSpan']
    rfl
  isSampled := by
    rw [activeSpan, activeSpan, hSpan, hSpan']
    exact (isSampled_rootContext flags' state').trans (isSampled_rootContext flags state).symm
  isRecording := by
    rw [isRecording, isRecording, hSpan, hSpan']
    rfl
  record := by
    rw [dataOf?, dataOf?, hSpan, hSpan', Option.bind_some, Option.bind_some, record_rootSpan,
      record_rootSpan]
  providers := hProviders

/-- **Invalid parents.** A span that is started below an identity that is not valid has no parent,
as if it were started in the same context without a span, and the two are alike but for the flags
other than the sampled bit and for the trace state. A span without a parent has none of either;
below an identity that is not valid it has those of that identity. So the two have the same identity
just if there is nothing in either. -/
theorem started_below_invalid (hProvider : t.providers[tracer.provider]? = some p)
    (hOpen : p.closed = false) (hPlain : p.sampler.IsPlain) (hNone : cx.hasSpan = false)
    {s : ActiveSpan} (hInvalid : s.context.isValid = false) (id : Nat) :
    let plain := t.start tracer name cx
    let below := t.start tracer name (cx.withSpan id s)
    let sc := (plain.1.activeSpan plain.2).context
    let sc' := (below.1.activeSpan below.2).context
    StartedAlike plain below ∧
      (∀ data, below.1.dataOf? below.2 = some data → data.parent = .invalid) ∧
      (sc.flags = TraceFlags.none.withSampled sc.isSampled ∧ sc.state = .empty) ∧
      (sc'.flags = s.context.flags.withSampled sc.isSampled ∧ sc'.state = s.context.state) ∧
      (sc' = sc ↔ Hop.IsBare s.context) := by
  intro plain below sc sc'
  have hContext := Context.spanContext_of_hasSpan hNone
  have hContext' := Context.spanContext_withSpan cx id s
  have hInvalid₀ : cx.spanContext.isValid = false := by
    rw [hContext]
    rfl
  have hInvalid' : (cx.withSpan id s).spanContext.isValid = false := by
    rw [hContext']
    exact hInvalid
  have hSpan : plain.1.spans[plain.2]? = some (rootSpan p tracer name t.now .none .empty) := by
    rw [span_start, begun_of_not_isValid hProvider hOpen hPlain hInvalid₀, hContext]
    rfl
  have hSpan' : below.1.spans[below.2]? =
      some (rootSpan p tracer name t.now s.context.flags s.context.state) := by
    rw [span_start, begun_of_not_isValid hProvider hOpen hPlain hInvalid', hContext']
  have hProviders : below.1.providers = plain.1.providers := by
    rw [providers_start_of_not_isValid hProvider hOpen hPlain hInvalid₀,
      providers_start_of_not_isValid hProvider hOpen hPlain hInvalid']
  have hSc : sc = rootContext p .none .empty := by
    simp only [sc, activeSpan, hSpan]
    rfl
  have hSc' : sc' = rootContext p s.context.flags s.context.state := by
    simp only [sc', activeSpan, hSpan']
    rfl
  have hSampled : sc.isSampled = (p.sampler.rootDecision == .recordAndSample) := by
    rw [hSc, isSampled_rootContext]
  refine ⟨startedAlike_of_rootSpan hSpan hSpan' hProviders, fun data hData => ?_, ?_, ?_, ?_⟩
  · have hRecord := @record_rootSpan tracer name p t.now s.context.flags s.context.state
    rw [dataOf?, hSpan', Option.bind_some] at hData
    rw [hData, Option.map_some] at hRecord
    exact parent_of_rootRecord? hRecord.symm
  · rw [hSampled, hSc]
    exact ⟨rfl, rfl⟩
  · rw [hSampled, hSc']
    exact ⟨rfl, rfl⟩
  · rw [hSc, hSc', rootContext_eq_iff, Hop.IsBare]

end Below

/-- Below an identity that is not valid but sampled, in which there is nothing else, a sampler that
follows valid parents asks on, and the two spans are identified alike. -/
theorem started_below_invalid_bare :
    let p : Provider :=
      ⟨[], .parentBased (.parentBased .alwaysOff), .counting 5 7, .constant .standard, false, false⟩
    let t : Telemetry := ⟨[], [p], [], [], [], ⟨0⟩⟩
    let tracer : Tracer := ⟨"tracer", 0⟩
    let cx := Context.root.withSpan 1 ⟨⟨.ofNat 3, .invalid, .sampled, .empty⟩, none⟩
    ((t.start tracer "span" cx).1.activeSpan 0).context =
        ((t.start tracer "span" .root).1.activeSpan 0).context ∧
      (t.start tracer "span" cx).1.isRecording 0 = false := by
  intro p t tracer cx
  obtain ⟨hAlike, -, -, -, hSame⟩ :=
    @started_below_invalid t tracer "span" .root p rfl rfl trivial rfl
      ⟨⟨.ofNat 3, .invalid, .sampled, .empty⟩, none⟩ (by decide) 1
  exact ⟨hSame.2 ⟨by decide, rfl⟩, hAlike.isRecording.trans rfl⟩

/-- A flag and a member of an identity without a trace are seen in the span that is started below
it. -/
theorem invalid_parent_seen :
    let p : Provider := ⟨[], .alwaysOn, .counting 5 7, .constant .standard, false, false⟩
    let t : Telemetry := ⟨[], [p], [], [], [], ⟨0⟩⟩
    let tracer : Tracer := ⟨"tracer", 0⟩
    let sc : SpanContext := ⟨.invalid, .ofNat 1, ⟨2⟩, .ofEntries [("a", "b")]⟩
    sc.isValid = false ∧
      ((t.start tracer "span" .root).1.activeSpan 0).context =
        ⟨.ofNat 5, .ofNat 7, ⟨1⟩, .empty⟩ ∧
      ((t.start tracer "span" (Context.root.withRemote 1 sc)).1.activeSpan 0).context =
        ⟨.ofNat 5, .ofNat 7, ⟨3⟩, .ofEntries [("a", "b")]⟩ ∧
      ((t.start tracer "span" (Context.root.withRemote 1 sc)).1.activeSpan 0).context ≠
        ((t.start tracer "span" .root).1.activeSpan 0).context := by
  decide

end Telemetry

end SpanFlow
