import SpanFlow.Proofs.Context.Derivation
import SpanFlow.Proofs.Propagation.HeaderRoundTrip
import SpanFlow.Proofs.Recording.Acts
import SpanFlow.Propagation.Carrier

/-!
# Traces across hops

A trace goes from span to span in hops. A span may be started in a context that carries the identity
of the span before it, or that identity may be written to a carrier under a Jaeger header and read
from there. The providers need have nothing in common but that they are open and sample as the
parent does; what they do for spans without a parent does not matter. A carrier must give back what
was written to it.

What each hop does to the identity is said by two equations, `reached_start` and `reached_wire`.
They hold for any telemetry, so the hops of a chain need not belong to one session, and anything may
happen between them. The rest is induction on the chain.

## Main results

* `reached_start`, `reached_wire`: the identity that a hop comes to, from the one it starts from.
* `parent_afterAll`: whatever happens to a span, its parent stays.
* `trace_kept`: every hop keeps the trace and the sampled flag, and what else it keeps or drops.
-/

namespace SpanFlow

namespace TraceFlags

theorem withSampled_isSampled (f : TraceFlags) : f.withSampled f.isSampled = f := by
  have hBits : ∀ b : BitVec 8,
      (if b &&& 1#8 == 1#8 then b ||| 1#8 else b &&& ~~~1#8) = b := by decide
  have hByte : (if f.bits &&& 1 == 1 then f.bits ||| 1 else f.bits &&& ~~~1) = f.bits := by
    apply UInt8.toBitVec_inj.1
    have h := hBits f.bits.toBitVec
    rw [apply_ite UInt8.toBitVec]
    simpa [← UInt8.toBitVec_inj] using h
  calc f.withSampled f.isSampled
      = ⟨if f.bits &&& 1 == 1 then f.bits ||| 1 else f.bits &&& ~~~1⟩ := by
        rw [apply_ite TraceFlags.mk]
        rfl
    _ = f := by rw [hByte]

theorem isSampled_inter_sampled (f : TraceFlags) : (f.inter sampled).isSampled = f.isSampled := by
  rw [inter_sampled]
  cases f.isSampled <;> rfl

theorem inter_sampled_inter_compl (f : TraceFlags) :
    (f.inter sampled).inter sampled.compl = none := by
  rw [inter_sampled]
  cases f.isSampled <;> decide

end TraceFlags

/-! ## Spans that are started -/

namespace SpanRecord

/-- A record keeps the parent that it was started with. -/
theorem parent_apply (l : Limits) (r : SpanRecord) (c : SpanCall) :
    (r.apply l c).parent = r.parent := by
  cases c with
  | setAttributes attributes =>
    obtain ⟨_, _, hEq⟩ := exists_setAttributes_eq l attributes r
    rw [hEq]
  | addEvent name time attributes =>
    obtain ⟨_, _, hEq⟩ := exists_addEvent_eq l name time attributes r
    rw [apply, hEq]
  | recordError message time =>
    obtain ⟨_, _, hEq⟩ := exists_recordError_eq l message time r
    rw [hEq]
  | addLink context attributes =>
    obtain ⟨_, _, hEq⟩ := exists_addLink_eq l context attributes r
    rw [apply, hEq]
  | setStatus status | rename name | finish time => rfl

/-- A record has the name that it was given last. -/
theorem name_apply (l : Limits) (r : SpanRecord) (c : SpanCall) :
    (r.apply l c).name = c.rename?.getD r.name := by
  cases c with
  | setAttributes attributes =>
    obtain ⟨_, _, hEq⟩ := exists_setAttributes_eq l attributes r
    rw [hEq]
    rfl
  | addEvent name time attributes =>
    obtain ⟨_, _, hEq⟩ := exists_addEvent_eq l name time attributes r
    rw [apply, hEq]
    rfl
  | recordError message time =>
    obtain ⟨_, _, hEq⟩ := exists_recordError_eq l message time r
    rw [hEq]
    rfl
  | addLink context attributes =>
    obtain ⟨_, _, hEq⟩ := exists_addLink_eq l context attributes r
    rw [apply, hEq]
    rfl
  | setStatus status | rename name | finish time => rfl

end SpanRecord

/-- A call leaves a property of what is exported as it is. -/
def SpanCall.Leaves (Q : SpanData → Prop) (c : SpanCall) : Prop :=
  ∀ l r context tracer, Q (SpanRecord.exported r context tracer) →
    Q ((r.apply l c).exported context tracer)

namespace Span

/-- What a span would export has a property. -/
def Shows (Q : SpanData → Prop) (s : Span) : Prop := ∀ d, s.data? = some d → Q d

/-- What a span would export names this parent. -/
def NamesParent (parent : SpanId) : Span → Prop := Shows fun d => d.parent = parent

variable {Q : SpanData → Prop} {s : Span}

theorem shows_ended : s.ended.Shows Q := by
  intro d hd
  rw [data?_ended] at hd
  cases hd

theorem Shows.afterCall (h : s.Shows Q) {c : SpanCall} (hLeaves : c.Leaves Q) :
    (s.afterCall c).Shows Q := by
  intro d hd
  rcases hKind : s.kind with _ | ⟨journal, finished⟩ | ⟨_ | r, tracer, limits⟩
  · cases c <;> simp [Span.afterCall, data?, hKind] at hd
  · cases c <;> simp [Span.afterCall, data?, hKind] at hd
  · cases c <;> simp [Span.afterCall, ended, data?, hKind] at hd
  · have hBefore : Q (r.exported s.context tracer.name) := h _ (by rw [data?, hKind])
    cases c with
    | finish time => simp [Span.afterCall, ended, data?, hKind] at hd
    | _ =>
      simp only [Span.afterCall, data?, hKind, Option.some.injEq] at hd
      rw [← hd]
      exact hLeaves limits r s.context tracer.name hBefore

end Span

namespace Telemetry

/-- An act keeps what spans show if the call that it makes does so. -/
theorem shows_onSpan {Q : SpanData → Prop} {s : Span} (h : s.Shows Q) {a : Act}
    (hLeaves : ∀ c, a.call? = some c → c.Leaves Q) (id : Nat) : (a.onSpan id s).Shows Q := by
  unfold Act.onSpan Span.afterActiveCall
  split
  · split
    · exact h.afterCall (hLeaves _ rfl)
    · exact h
  · split
    · split
      · exact h
      · exact h.afterCall (hLeaves _ rfl)
    · exact h
  · split
    · exact Span.shows_ended
    · exact h
  · exact h

theorem namesParent_onSpan {s : Span} {parent : SpanId} (h : s.NamesParent parent) (a : Act)
    (id : Nat) : (a.onSpan id s).NamesParent parent :=
  shows_onSpan h (fun c _ l r _ _ hBefore => (SpanRecord.parent_apply l r c).trans hBefore) id

/-- Whatever happens to a span, its parent stays. -/
theorem parent_afterAll {t : Telemetry} {id : Nat} {s : Span} {parent : SpanId}
    (hSpan : t.spans[id]? = some s) (h : s.NamesParent parent) (acts : List Act) {d : SpanData}
    (hData : (t.afterAll acts).dataOf? id = some d) : d.parent = parent := by
  induction acts generalizing t s with
  | nil =>
    rw [afterAll_nil, dataOf?, hSpan] at hData
    exact h d hData
  | cons a rest ih => exact ih (span_after hSpan a) (namesParent_onSpan h a id) hData

theorem snd_start (t : Telemetry) (tracer : Tracer) (name : String) (cx : Context) :
    (t.start tracer name cx).2 = t.spans.length := by
  unfold start
  split
  · rfl
  · split <;> rfl

/-- The span that a start adds. -/
theorem span_start (t : Telemetry) (tracer : Tracer) (name : String) (cx : Context) :
    (t.start tracer name cx).1.spans[(t.start tracer name cx).2]? =
      some (t.begun tracer name cx) := by
  rw [spans_start, snd_start, List.getElem?_concat_length]

end Telemetry

/-- A carrier gives back what was set last if it is a map, and if it had nothing under the name. -/
theorem Carrier.get?_set_self {c : Carrier} {name : String}
    (h : c.kind = .map ∨ c.get? name = none) (value : String) :
    (c.set name value).get? name = some value := by
  rcases c with ⟨kind, items⟩
  cases kind with
  | map => rw [get?_set_map, if_pos rfl]
  | list | foldingList =>
    have hNone := h.resolve_left fun hKind => by cases hKind
    simp only [get?, Assoc.get?, Option.map_eq_none_iff] at hNone
    simp [get?, set, Assoc.get?, List.find?_append, hNone]

/-! ## Hops -/

/-- A step of a trace from one identity to the next: a span is started in a context, or a context is
written under a header and read from there into another context. -/
inductive Hop where
  | start (t : Telemetry) (tracer : Tracer) (name : String) (cx : Context)
  | wire (header : String) (cx : Context) (reader : Extractor) (into : Context) (next : Nat)

namespace Hop

/-- The context that a hop starts from. -/
def source : Hop → Context
  | start _ _ _ cx => cx
  | wire _ cx _ _ _ => cx

/-- The identity that a hop comes to: that of the span started, or that of the context read. -/
def reached : Hop → SpanContext
  | start t tracer name cx =>
    ((t.start tracer name cx).1.activeSpan (t.start tracer name cx).2).context
  | wire header _ reader into next =>
    ((Propagator.jaeger header).extract reader into next).context.spanContext

/-- Whether a hop goes through a carrier. -/
def IsWire : Hop → Prop
  | start .. => False
  | wire .. => True

/-- What a hop needs. The provider of a span is open, samples as a valid parent does, and draws
identifiers that are not zero; a carrier gives back what was written to it. -/
def IsSound : Hop → Prop
  | start t tracer _ _ => ∃ p delegate, t.providers[tracer.provider]? = some p ∧
      p.closed = false ∧ p.sampler = .parentBased delegate ∧
      p.ids.nextTrace.1.isValid = true ∧ p.ids.nextSpan.1.isValid = true
  | wire header cx reader _ _ =>
    ∀ item ∈ (Propagator.jaeger header).inject cx, reader.get? item.1 = some item.2

theorem reached_start_eq (t : Telemetry) (tracer : Tracer) (name : String) (cx : Context) :
    (start t tracer name cx).reached = (t.begun tracer name cx).context := by
  rw [reached, Telemetry.activeSpan, Telemetry.span_start]

/-- A span that is started below a valid one: it has the trace, the flags and the trace state of
that one, and records if that one is sampled. -/
theorem begun_of_isValid {t : Telemetry} {tracer : Tracer} {name : String} {cx : Context}
    {p : Provider} {delegate : Sampler} (hProvider : t.providers[tracer.provider]? = some p)
    (hOpen : p.closed = false) (hSampler : p.sampler = .parentBased delegate)
    (hValid : cx.spanContext.isValid = true) :
    t.begun tracer name cx =
      .fresh ⟨cx.spanContext.traceId, p.ids.nextSpan.1, cx.spanContext.flags, cx.spanContext.state⟩
        (.recorded
          (if cx.spanContext.isSampled then some (.started cx.spanContext.spanId name t.now)
            else none)
          tracer p.limits.next.1) := by
  have hResult : ∀ traceId, p.sampler.sample ⟨some cx, traceId, name, [], []⟩ =
      ⟨if cx.spanContext.isSampled then .recordAndSample else .drop, [], cx.spanContext.state⟩ := by
    intro traceId
    rw [hSampler]
    exact Sampler.sample_parentBased_of_valid
      (by simp [SamplingQuery.validParent?, hValid]) delegate
  have hBeginning : (Telemetry.beginning p name cx).context =
        ⟨cx.spanContext.traceId, p.ids.nextSpan.1, cx.spanContext.flags, cx.spanContext.state⟩ ∧
      (Telemetry.beginning p name cx).parent = cx.spanContext.spanId ∧
      (Telemetry.beginning p name cx).result = ⟨if cx.spanContext.isSampled then
        .recordAndSample else .drop, [], cx.spanContext.state⟩ ∧
      (Telemetry.beginning p name cx).limits = p.limits.next.1 := by
    simp only [Telemetry.beginning, hValid, if_true, hResult, and_true]
    have hFlags := cx.spanContext.flags.withSampled_isSampled
    rw [SpanContext.isSampled]
    cases hSampled : cx.spanContext.flags.isSampled <;> rw [hSampled] at hFlags <;>
      exact congrArg (SpanContext.mk _ _ · _) hFlags
  obtain ⟨hContext, hParent, hAnswer, hLimits⟩ := hBeginning
  rw [Telemetry.begun_of_open hProvider hOpen, hContext, hLimits, Telemetry.Beginning.record?,
    hParent, hAnswer]
  cases cx.spanContext.isSampled <;> rfl

/-- A span that is started below a valid one takes over its identity but for an identifier of its
own. -/
theorem reached_start {t : Telemetry} {tracer : Tracer} {name : String} {cx : Context}
    (h : (start t tracer name cx).IsSound) (hValid : cx.spanContext.isValid = true) :
    ∃ id : SpanId, id.isValid = true ∧ (start t tracer name cx).reached =
      ⟨cx.spanContext.traceId, id, cx.spanContext.flags, cx.spanContext.state⟩ := by
  obtain ⟨p, delegate, hProvider, hOpen, hSampler, -, hSpan⟩ := h
  exact ⟨p.ids.nextSpan.1, hSpan,
    by rw [reached_start_eq, begun_of_isValid hProvider hOpen hSampler hValid, Span.fresh]⟩

/-- A span that is started where there is no valid one begins a trace. -/
theorem isValid_reached_start {t : Telemetry} {tracer : Tracer} {name : String} {cx : Context}
    (h : (start t tracer name cx).IsSound) (hRoot : cx.spanContext.isValid = false) :
    (start t tracer name cx).reached.isValid = true := by
  obtain ⟨p, delegate, hProvider, hOpen, -, hTrace, hSpan⟩ := h
  have hContext : (t.begun tracer name cx).context.traceId = p.ids.nextTrace.1 ∧
      (t.begun tracer name cx).context.spanId = p.ids.nextSpan.1 := by
    rw [Telemetry.begun_of_open hProvider hOpen]
    refine ⟨?_, rfl⟩
    simp only [Telemetry.beginning, hRoot, Span.fresh]
    rfl
  rw [reached_start_eq, SpanContext.isValid, hContext.1, hContext.2, hTrace, hSpan]
  rfl

/-- What goes through a carrier keeps its identifiers and the sampled bit, and nothing else. -/
theorem reached_wire {header : String} {cx into : Context} {reader : Extractor} {next : Nat}
    (h : (wire header cx reader into next).IsSound)
    (hValid : cx.spanContext.isValid = true) :
    (wire header cx reader into next).reached =
      ⟨cx.spanContext.traceId, cx.spanContext.spanId, cx.spanContext.flags.inter .sampled,
        .empty⟩ := by
  have hText := Jaeger.encode_of_isValid hValid
  have hRead : reader.get? header =
      some (String.ofList (Jaeger.canonicalFields cx.spanContext).text) := by
    refine h (header, _) ?_
    rw [Propagator.inject, hText]
    exact List.mem_singleton_self _
  have hParse := Jaeger.parse_eq_ok_iff.2 ⟨_, Jaeger.wellFormed_of_escapes hValid
    (v := String.ofList (Jaeger.canonicalFields cx.spanContext).text)
    (by rw [String.toList_ofList]; exact .refl _), Jaeger.context_canonicalFields _⟩
  rw [reached, Propagator.extract, Propagator.extractJaeger, hRead]
  simp only [hParse]
  exact Context.spanContext_withSpan _ _ _

/-! ## Chains -/

/-- Each hop is sound and starts from a context that carries what the hop before it came to. -/
def Chained : SpanContext → List Hop → Prop
  | _, [] => True
  | sc, hop :: rest => hop.source.spanContext = sc ∧ hop.IsSound ∧ Chained hop.reached rest

/-- What the last of some hops came to. -/
def lastReached (sc : SpanContext) (hops : List Hop) : SpanContext :=
  hops.foldl (fun _ hop => hop.reached) sc

/-- What a span that is started as a hop records: everything if it is to be sampled, and then, for
as long as it has data, with this parent. -/
def Records (sampled : Bool) (parent : SpanId) : Hop → Prop
  | start t tracer name cx =>
    let after := t.start tracer name cx
    after.1.isRecording after.2 = sampled ∧
      (after.1.dataOf? after.2).isSome = sampled ∧
      ∀ acts d, (after.1.afterAll acts).dataOf? after.2 = some d → d.parent = parent
  | wire .. => True

/-- What a hop makes of the identity before it, in a trace with a first identity. -/
structure Keeps (first before : SpanContext) (hop : Hop) : Prop where
  isValid : hop.reached.isValid = true
  traceId_eq : hop.reached.traceId = first.traceId
  isSampled_eq : hop.reached.isSampled = first.isSampled
  records : hop.Records first.isSampled before.spanId
  flags_eq : ¬ hop.IsWire → hop.reached.flags = before.flags
  state_eq : ¬ hop.IsWire → hop.reached.state = before.state

/-- An identity from which nothing but the sampled bit travels on. -/
def IsBare (sc : SpanContext) : Prop :=
  sc.flags.inter TraceFlags.sampled.compl = .none ∧ sc.state = .empty

theorem records_start {t : Telemetry} {tracer : Tracer} {name : String} {cx : Context}
    (h : (start t tracer name cx).IsSound) (hValid : cx.spanContext.isValid = true) :
    (start t tracer name cx).Records cx.spanContext.isSampled cx.spanContext.spanId := by
  obtain ⟨p, delegate, hProvider, hOpen, hSampler, -, -⟩ := h
  have hSpan := Telemetry.span_start t tracer name cx
  rw [begun_of_isValid hProvider hOpen hSampler hValid] at hSpan
  refine ⟨?_, ?_, fun acts d hData => Telemetry.parent_afterAll hSpan ?_ acts hData⟩
  · simp only [Telemetry.isRecording, hSpan, Option.any_some, Span.isRecording, Span.fresh]
    cases cx.spanContext.isSampled <;> rfl
  · simp only [Telemetry.dataOf?, hSpan, Option.bind_some, Span.data?, Span.fresh]
    cases cx.spanContext.isSampled <;> rfl
  · intro d hd
    simp only [Span.data?, Span.fresh] at hd
    cases hSampled : cx.spanContext.isSampled <;> rw [hSampled] at hd
    · cases hd
    · obtain rfl := Option.some.inj hd
      rfl

/-- One hop, from a valid identity of the trace. -/
theorem keeps_of_isSound {first : SpanContext} {hop : Hop} (h : hop.IsSound)
    (hValid : hop.source.spanContext.isValid = true)
    (hTrace : hop.source.spanContext.traceId = first.traceId)
    (hSampled : hop.source.spanContext.isSampled = first.isSampled) :
    hop.Keeps first hop.source.spanContext := by
  cases hop with
  | start t tracer name cx =>
    obtain ⟨id, hId, hReached⟩ := reached_start h hValid
    have hRecords := records_start h hValid
    rw [show cx.spanContext.isSampled = first.isSampled from hSampled] at hRecords
    simp only [SpanContext.isValid, source, Bool.and_eq_true] at hValid
    constructor
    · rw [hReached]
      simp [SpanContext.isValid, hValid.1, hId]
    · rw [hReached]
      exact hTrace
    · rw [hReached]
      exact hSampled
    · exact hRecords
    · intro _
      rw [hReached]
      rfl
    · intro _
      rw [hReached]
      rfl
  | wire header cx reader into next =>
    have hReached := reached_wire h hValid
    constructor
    · rw [hReached]
      exact hValid
    · rw [hReached]
      exact hTrace
    · rw [hReached]
      exact (TraceFlags.isSampled_inter_sampled _).trans hSampled
    · trivial
    · exact fun hNot => absurd trivial hNot
    · exact fun hNot => absurd trivial hNot

theorem isBare_of_isSound {hop : Hop} (h : hop.IsSound)
    (hValid : hop.source.spanContext.isValid = true)
    (hBare : hop.IsWire ∨ IsBare hop.source.spanContext) : IsBare hop.reached := by
  cases hop with
  | start t tracer name cx =>
    obtain ⟨id, -, hReached⟩ := reached_start h hValid
    rw [hReached]
    exact hBare.resolve_left not_false
  | wire header cx reader into next =>
    rw [reached_wire h hValid]
    exact ⟨TraceFlags.inter_sampled_inter_compl _, rfl⟩

variable {first sc : SpanContext} {hops : List Hop}

/-- Each hop of a chain, from any identity of the trace. -/
theorem keeps_of_chained (h : Chained sc hops) (hValid : sc.isValid = true)
    (hTrace : sc.traceId = first.traceId) (hSampled : sc.isSampled = first.isSampled)
    (before after : List Hop) (hop : Hop) (hSplit : hops = before ++ hop :: after) :
    hop.Keeps first (lastReached sc before) ∧
      ((IsBare sc ∨ ∃ w ∈ before ++ [hop], w.IsWire) → IsBare hop.reached) := by
  induction before generalizing sc hops with
  | nil =>
    subst hSplit
    obtain ⟨rfl, hSound, -⟩ := h
    refine ⟨keeps_of_isSound hSound hValid hTrace hSampled, fun hBare =>
      isBare_of_isSound hSound hValid ?_⟩
    simpa [or_comm] using hBare
  | cons head before ih =>
    subst hSplit
    obtain ⟨rfl, hSound, hRest⟩ := h
    have hHead := keeps_of_isSound hSound hValid hTrace hSampled
    obtain ⟨hKeeps, hBare⟩ := ih hRest hHead.isValid hHead.traceId_eq hHead.isSampled_eq rfl
    refine ⟨hKeeps, fun hWire => hBare ?_⟩
    -- A wire hop before leaves a bare identity, which this head passes on.
    rcases hWire with hWire | ⟨w, hMem, hWire⟩
    · exact .inl (isBare_of_isSound hSound hValid (.inr hWire))
    · rcases List.mem_cons.1 hMem with rfl | hMem
      · exact .inl (isBare_of_isSound hSound hValid (.inl hWire))
      · exact .inr ⟨w, hMem, hWire⟩

/-- A map gives back what was written to it, whatever was in it, and so does a list that had nothing
under the header. -/
theorem isSound_wire_carrier (header : String) (cx into : Context) (next : Nat) (c : Carrier)
    (h : c.kind = .map ∨ c.get? header = none) :
    (wire header cx (c.setAll ((Propagator.jaeger header).inject cx)).extractor into
      next).IsSound := by
  intro item hItem
  rw [Propagator.inject] at hItem ⊢
  rcases hText : Jaeger.encode cx.spanContext with _ | text <;> rw [hText] at hItem
  · cases hItem
  · obtain rfl := List.mem_singleton.1 hItem
    exact Carrier.get?_set_self h text

/-- A trace along a chain of hops. Its first span is started where there is no valid one, by a
provider that samples such spans in any way. -/
theorem trace_kept :
    (∀ header cx into next (c : Carrier), (c.kind = .map ∨ c.get? header = none) →
      (wire header cx (c.setAll ((Propagator.jaeger header).inject cx)).extractor into
        next).IsSound) ∧
    ∀ t tracer name cx rest, (start t tracer name cx).IsSound →
      cx.spanContext.isValid = false → Chained (start t tracer name cx).reached rest →
      (start t tracer name cx).reached.isValid = true ∧
      ∀ before hop after, rest = before ++ hop :: after →
        hop.Keeps (start t tracer name cx).reached
            (lastReached (start t tracer name cx).reached before) ∧
          ((∃ w ∈ before ++ [hop], w.IsWire) → IsBare hop.reached) := by
  refine ⟨isSound_wire_carrier, fun t tracer name cx rest hFirst hRoot hChain => ?_⟩
  have hValid := isValid_reached_start hFirst hRoot
  refine ⟨hValid, fun before hop after hSplit => ?_⟩
  obtain ⟨hKeeps, hBare⟩ := keeps_of_chained hChain hValid rfl rfl before after hop hSplit
  exact ⟨hKeeps, fun hWire => hBare (.inr hWire)⟩

/-- A provider that samples all that has no parent. -/
def relayProvider : Provider :=
  ⟨[], .parentBased .alwaysOn, .counting 0x4d 0x17c29, .constant .standard, false, false⟩

/-- The telemetry of a process with one provider. -/
def relay : Telemetry := (Telemetry.empty.addProvider relayProvider).1

/-- A trace that begins in one process and goes on in another. -/
theorem trace_kept_relay :
    let first := start relay ⟨"caller", 0⟩ "request" .root
    let sent := wire "uber-trace-id" (Context.root.withRemote 0 first.reached)
      (Carrier.setAll ⟨.map, []⟩ ((Propagator.jaeger "uber-trace-id").inject
        (Context.root.withRemote 0 first.reached))).extractor .root 1
    let served := start relay ⟨"callee", 0⟩ "response" (Context.root.withRemote 2 sent.reached)
    served.Keeps first.reached sent.reached ∧ IsBare served.reached := by
  intro first sent served
  have hStart : ∀ tracer name cx, (start relay ⟨tracer, 0⟩ name cx).IsSound := fun _ _ _ =>
    ⟨relayProvider, .alwaysOn, rfl, rfl, rfl, by decide, by decide⟩
  have hCarries : ∀ next sc, (Context.root.withRemote next sc).spanContext = sc := fun next sc =>
    Context.spanContext_withSpan _ next ⟨sc, none⟩
  obtain ⟨hWire, hChain⟩ := trace_kept
  have hSent : sent.IsSound := hWire _ _ _ _ ⟨.map, []⟩ (.inl rfl)
  have hKept := hChain relay ⟨"caller", 0⟩ "request" .root [sent, served] (hStart _ _ _) rfl
    ⟨hCarries _ _, hSent, hCarries _ _, hStart _ _ _, trivial⟩
  obtain ⟨hKeeps, hBare⟩ := hKept.2 [sent] served [] rfl
  exact ⟨hKeeps, hBare ⟨sent, List.mem_cons_self, trivial⟩⟩

end Hop

end SpanFlow
