import SpanFlow.Proofs.Recording.Telling
import SpanFlow.Recording.Provider

/-!
# Acts on spans and providers

Everything that happens to spans, providers and exporters happens by acts. An act is a call that
somebody makes, or the release of a span or a provider by its last holder. Between them time passes:
that is an act as well, after which the clock shows any reading, and a call or a release that
happens at no stated time happens at the reading that the clock then shows.

An act changes one span and one provider at most, adds one of each at most, and calls exporters.
This module states what it does to the spans and to the providers, in one equation each. Later
proofs use these equations and open no operation.

## Main results

* `spans_after`, `providers_after`: what an act does to the spans and to the providers.
* `finish_eq`: what the end of a span is.
-/

namespace SpanFlow

/-- When a call ends the span that it is made on. -/
def SpanCall.ends? : SpanCall → Option Timestamp
  | .finish time => some time
  | _ => none

/-- The name that a call gives to the span that it is made on. -/
def SpanCall.rename? : SpanCall → Option String
  | .rename name => some name
  | _ => none

namespace Span

/-- A span without its record. -/
def ended (s : Span) : Span :=
  match s.kind with
  | .recorded _ tracer limits => { s with kind := .recorded none tracer limits }
  | _ => s

/-- A span after a call on it. -/
def afterCall (c : SpanCall) (s : Span) : Span :=
  match s.kind, c with
  | .recorded _ _ _, .finish _ => s.ended
  | .recorded (some r) tracer limits, c =>
    { s with kind := .recorded (some (r.apply limits c)) tracer limits }
  | .journaled journal _, .finish _ => { s with kind := .journaled journal true }
  | _, _ => s

/-- Whether a call on a span fails half-way. -/
def fails (c : SpanCall) (s : Span) : Bool :=
  match s.kind, c with
  | .journaled _ _, .rename name => name = refusedName
  | _, _ => false

/-- A span after a call on it through a context. -/
def afterActiveCall (c : SpanCall) (s : Span) : Span :=
  if s.poisoned then s else { s.afterCall c with poisoned := s.fails c }

/-- A span after its release. -/
def afterRelease (s : Span) : Span := { s.ended with released := true }

/-! ## What becomes of a span -/

@[simp] theorem context_ended (s : Span) : s.ended.context = s.context := by
  unfold ended
  split <;> rfl

@[simp] theorem poisoned_ended (s : Span) : s.ended.poisoned = s.poisoned := by
  unfold ended
  split <;> rfl

@[simp] theorem released_ended (s : Span) : s.ended.released = s.released := by
  unfold ended
  split <;> rfl

@[simp] theorem context_afterCall (c : SpanCall) (s : Span) :
    (s.afterCall c).context = s.context := by
  unfold afterCall
  split <;> simp

@[simp] theorem poisoned_afterCall (c : SpanCall) (s : Span) :
    (s.afterCall c).poisoned = s.poisoned := by
  unfold afterCall
  split <;> simp

@[simp] theorem released_afterCall (c : SpanCall) (s : Span) :
    (s.afterCall c).released = s.released := by
  unfold afterCall
  split <;> simp

@[simp] theorem provider?_ended (s : Span) : s.ended.provider? = s.provider? := by
  unfold ended provider?
  cases hKind : s.kind <;> simp [hKind]

@[simp] theorem provider?_afterCall (c : SpanCall) (s : Span) :
    (s.afterCall c).provider? = s.provider? := by
  rcases hKind : s.kind with _ | ⟨journal, finished⟩ | ⟨_ | r, tracer, limits⟩ <;>
    cases c <;> simp [afterCall, ended, provider?, hKind]

@[simp] theorem data?_ended (s : Span) : s.ended.data? = none := by
  unfold ended data?
  cases hKind : s.kind <;> simp [hKind]

/-- A span keeps what it records until a call ends it. -/
theorem isSome_data?_afterCall (c : SpanCall) (s : Span) :
    (s.afterCall c).data?.isSome = (s.data?.isSome && c.ends?.isNone) := by
  rcases hKind : s.kind with _ | ⟨journal, finished⟩ | ⟨_ | r, tracer, limits⟩ <;>
    cases c <;> simp [afterCall, ended, data?, hKind, SpanCall.ends?]

/-- Only a span that keeps a journal fails. -/
theorem provider?_of_fails {c : SpanCall} {s : Span} (h : s.fails c = true) :
    s.provider? = none := by
  unfold fails at h
  unfold provider?
  split at h
  · rename_i hKind
    simp [hKind]
  · cases h

/-- What records has a provider. -/
theorem provider?_of_data? {s : Span} {data : SpanData} (h : s.data? = some data) :
    ∃ p, s.provider? = some p := by
  unfold data? at h
  unfold provider?
  split at h
  · rename_i hKind
    rw [hKind]
    exact ⟨_, rfl⟩
  · cases h

/-- Ending changes no span without a record. -/
theorem ended_of_data? {s : Span} (h : s.data? = none) : s.ended = s := by
  unfold data? at h
  unfold ended
  rcases hKind : s.kind with _ | ⟨journal, finished⟩ | ⟨_ | r, tracer, limits⟩
  · rfl
  · rfl
  · cases s
    simp_all
  · simp [hKind] at h

end Span

namespace Telemetry

/-! ## Acts -/

/-- Something that happens to spans, providers and exporters. -/
inductive Act where
  | exporter (kind : Exporter.Kind)
  | provider (plan : ProviderPlan) (environment : Surroundings)
  | inert (context : SpanContext)
  | journaled (context : SpanContext)
  | start (tracer : Tracer) (name : String) (parentContext : Context)
  | call (span : Nat) (c : SpanCall)
  | callActive (active : ActiveSpan) (c : SpanCall)
  | releaseSpan (span : Nat)
  | flush (provider : Nat)
  | shutdown (provider : Nat)
  | releaseProvider (provider : Nat)
  | clear (exporter : Nat)
  | report (d : Diagnostic)
  | takeLog
  | readJournal (journal : Nat)
  | elapse (now : Timestamp)

/-- Makes a provider, if the exporters that it is to have are there. -/
def makeProvider (t : Telemetry) (plan : ProviderPlan) (env : Surroundings) : Telemetry :=
  if plan.exporters.all (· < t.exporters.length) then (t.addPlanned plan env).1 else t

/-- What is there after an act. -/
def after (t : Telemetry) : Act → Telemetry
  | .exporter kind => (t.addExporter (.fresh kind)).1
  | .provider plan env => t.makeProvider plan env
  | .inert sc => (t.addSpan (.fresh sc .inert)).1
  | .journaled sc => (t.addJournal.1.addSpan (.fresh sc (.journaled t.addJournal.2 false))).1
  | .start tracer name cx => (t.start tracer name cx).1
  | .call id c => (t.call id c).1
  | .callActive active c => (t.callActive active c).1
  | .releaseSpan id => t.releaseSpan id
  | .flush p => (t.flush p).1
  | .shutdown p => (t.shutdown p).1
  | .releaseProvider p => t.releaseProvider p
  | .clear id => { t with exporters := t.exporters.modify id Exporter.cleared }
  | .report d => t.report d
  | .takeLog => { t with log := [] }
  | .readJournal journal => { t with journals := t.journals.set journal [] }
  | .elapse now => t.elapse now

/-- What is there after acts, one after the other. -/
def afterAll (t : Telemetry) (acts : List Act) : Telemetry := acts.foldl after t

@[simp] theorem afterAll_nil (t : Telemetry) : t.afterAll [] = t := rfl

@[simp] theorem afterAll_cons (t : Telemetry) (a : Act) (acts : List Act) :
    t.afterAll (a :: acts) = (t.after a).afterAll acts := rfl

theorem afterAll_append (t : Telemetry) (acts others : List Act) :
    t.afterAll (acts ++ others) = (t.afterAll acts).afterAll others := List.foldl_append

namespace Act

/-- The span that an act ends, unless it has ended. -/
def ended? : Act → Option Nat
  | call id c => if c.ends?.isSome then some id else none
  | callActive active c => if c.ends?.isSome then active.span? else none
  | releaseSpan id => some id
  | _ => none

/-- The span that an act ends, unless it has ended, and when: a call at the time that it carries,
and a release at what the clock shows. -/
def ends? (now : Timestamp) : Act → Option (Nat × Timestamp)
  | call id c => c.ends?.map fun time => (id, time)
  | callActive active c => active.span?.bind fun id => c.ends?.map fun time => (id, time)
  | releaseSpan id => some (id, now)
  | _ => none

theorem map_fst_ends? (now : Timestamp) (a : Act) : (a.ends? now).map Prod.fst = a.ended? := by
  cases a with
  | call id c => cases hEnds : c.ends? <;> simp [ends?, ended?, hEnds]
  | callActive active c =>
    cases hEnds : c.ends? <;> cases hActive : active.span? <;> simp [ends?, ended?, hEnds, hActive]
  | _ => rfl

/-- The call that an act makes on a span. -/
def call? : Act → Option SpanCall
  | call _ c | callActive _ c => some c
  | _ => none

/-- The provider that an act shuts down, unless it is shut down. -/
def closes? : Act → Option Nat
  | shutdown p | releaseProvider p => some p
  | _ => none

/-- What an act makes of a span that was there before. -/
def onSpan (a : Act) (id : Nat) (s : Span) : Span :=
  match a with
  | call other c => if other = id then s.afterCall c else s
  | callActive active c => if active.span? = some id then s.afterActiveCall c else s
  | releaseSpan other => if other = id then s.afterRelease else s
  | _ => s

/-- What an act makes of a provider that was there before. -/
def onProvider (a : Act) (id : Nat) (p : Provider) : Provider :=
  match a with
  | start tracer name cx =>
    if tracer.provider = id ∧ p.closed = false then (beginning p name cx).provider else p
  | shutdown other => if other = id then { p with closed := true } else p
  | releaseProvider other => if other = id then { p with closed := true, released := true } else p
  | _ => p

end Act

/-- A span that is started: one without a record and an identity if its provider is shut down. -/
def begun (t : Telemetry) (tracer : Tracer) (name : String) (cx : Context) : Span :=
  match t.providers[tracer.provider]? with
  | none => .fresh .none (.recorded none tracer .standard)
  | some p =>
    if p.closed then .fresh .none (.recorded none tracer .standard)
    else
      let b := beginning p name cx
      .fresh b.context (.recorded (b.record? name t.now) tracer b.limits)

theorem begun_of_open {t : Telemetry} {tracer : Tracer} {p : Provider}
    (hProvider : t.providers[tracer.provider]? = some p) (hOpen : p.closed = false) (name : String)
    (cx : Context) :
    t.begun tracer name cx = .fresh (beginning p name cx).context
      (.recorded ((beginning p name cx).record? name t.now) tracer
        (beginning p name cx).limits) := by
  simp only [begun, hProvider, hOpen]
  rfl

/-- The record begins with what the sampler adds. -/
theorem Beginning.record?_of_ne_drop {b : Beginning} (h : b.result.decision ≠ .drop) (name : String)
    (now : Timestamp) :
    b.record? name now = some ((SpanRecord.started b.parent name now).apply b.limits
      (.setAttributes b.result.attributes)) := by
  unfold Beginning.record?
  split
  · rename_i hDrop
    exact absurd hDrop h
  · rfl

/-- The span that an act adds. -/
def newSpan? (t : Telemetry) : Act → Option Span
  | .inert sc => some (.fresh sc .inert)
  | .journaled sc => some (.fresh sc (.journaled t.journals.length false))
  | .start tracer name cx => some (t.begun tracer name cx)
  | _ => none

/-- The provider that an act adds. -/
def newProvider? (t : Telemetry) : Act → Option Provider
  | .provider plan env =>
    if plan.exporters.all (· < t.exporters.length) then
      some ⟨plan.exporters, plan.sampler?.getD .standard,
        plan.ids?.getD (.random (env.random t.providers.length)), (plan.limits env).1, false, false⟩
    else none
  | _ => none

/-! ## Changes of one item -/

section Items

variable {α : Type} {l : List α} {i : Nat} {a : α} {f g : α → α}

private theorem modify_congr (hGet : l[i]? = some a) (hSame : f a = g a) :
    l.modify i f = l.modify i g := by
  apply List.ext_getElem?
  intro j
  rw [List.getElem?_modify, List.getElem?_modify]
  by_cases hj : i = j
  · subst hj
    simp [hGet, hSame]
  · simp [hj]

private theorem eq_modify (hGet : l[i]? = some a) (hKeeps : f a = a) : l = l.modify i f := by
  have hId : l.modify i f = l.modify i id := modify_congr hGet hKeeps
  rw [hId, List.modify_id]

private theorem modify_eq_mapIdx (l : List α) (i : Nat) (f : α → α) :
    l.modify i f = l.mapIdx fun j a => if i = j then f a else a := by
  symm
  rw [List.mapIdx_eq_iff]
  intro j
  rw [List.getElem?_modify]
  by_cases hj : i = j <;> simp [hj]

private theorem mapIdx_keeps {h : Nat → α → α} (hKeeps : ∀ j a, h j a = a) (l : List α) :
    l.mapIdx h = l := by
  rw [List.mapIdx_eq_iff]
  intro j
  cases l[j]? with
  | none => rfl
  | some a => exact congrArg some (hKeeps j a).symm

end Items

/-! ## Spans -/

/-- What would be exported of a span if it ended now. -/
def dataOf? (t : Telemetry) (id : Nat) : Option SpanData := t.spans[id]?.bind Span.data?

/-- Nothing happens at the end of a span without a record. -/
theorem finish_eq_self {t : Telemetry} {id : Nat} (h : t.dataOf? id = none) (time : Timestamp) :
    t.finish id time = t := by
  unfold finish
  cases hSpan : t.spans[id]? with
  | none => rfl
  | some s =>
    have hData : s.data? = none := by simpa [dataOf?, hSpan] using h
    rcases hKind : s.kind with _ | ⟨journal, finished⟩ | ⟨_ | r, tracer, limits⟩
    · simp only [hKind]
    · simp only [hKind]
    · simp only [hKind]
    · simp [Span.data?, hKind] at hData

/-- A span with a record loses it at its end. It is exported if it is sampled and its provider is
not shut down. -/
theorem finish_eq {t : Telemetry} {id p : Nat} {s : Span} {data : SpanData}
    (hSpan : t.spans[id]? = some s) (hData : s.data? = some data) (hProvider : s.provider? = some p)
    (time : Timestamp) :
    t.finish id time =
      if t.isClosed p || !s.context.isSampled then t.modifySpan id Span.ended
      else
        exportTo { data with finish := time } (t.exportersOf p) (t.modifySpan id Span.ended) := by
  unfold finish
  rcases hKind : s.kind with _ | ⟨journal, finished⟩ | ⟨_ | r, tracer, limits⟩ <;>
    simp only [Span.data?, Span.provider?, hKind] at hData hProvider
  · cases hData
  · cases hData
  · cases hData
  · cases hData
    cases hProvider
    have hModify : (t.modifySpan id fun s => { s with kind := .recorded none tracer limits }) =
        t.modifySpan id Span.ended := by
      unfold modifySpan
      rw [modify_congr hSpan (f := fun s => { s with kind := .recorded none tracer limits })
        (g := Span.ended) (by simp [Span.ended, hKind])]
    simp only [hSpan, hKind, hModify]
    rfl

theorem spans_finish (t : Telemetry) (id : Nat) (time : Timestamp) :
    (t.finish id time).spans = t.spans.modify id Span.ended := by
  cases hSpan : t.spans[id]? with
  | none =>
    rw [finish_eq_self (by simp [dataOf?, hSpan])]
    exact (List.modify_eq_self (by simpa using hSpan)).symm
  | some s =>
    cases hData : s.data? with
    | none =>
      rw [finish_eq_self (by simp [dataOf?, hSpan, hData])]
      exact eq_modify hSpan (Span.ended_of_data? hData)
    | some data =>
      obtain ⟨p, hProvider⟩ := Span.provider?_of_data? hData
      rw [finish_eq hSpan hData hProvider]
      split
      · rfl
      · exact spans_exportTo _ _ _

theorem spans_call (t : Telemetry) (id : Nat) (c : SpanCall) :
    (t.call id c).1.spans = t.spans.modify id (Span.afterCall c) := by
  unfold call
  cases hSpan : t.spans[id]? with
  | none => exact (List.modify_eq_self (by simpa using hSpan)).symm
  | some s =>
    rcases hKind : s.kind with _ | ⟨journal, finished⟩ | ⟨record?, tracer, limits⟩
    · simp only [hKind]
      exact eq_modify hSpan (by simp [Span.afterCall, hKind])
    · cases c with
      | finish time =>
        simp only [hKind]
        exact modify_congr hSpan (by simp [Span.afterCall, hKind])
      | rename name =>
        simp only [hKind]
        split <;> exact eq_modify hSpan (by simp [Span.afterCall, hKind])
      | _ =>
        simp only [hKind]
        exact eq_modify hSpan (by simp [Span.afterCall, hKind])
    · cases c with
      | finish time =>
        simp only [hKind]
        rw [spans_finish]
        exact modify_congr hSpan (by simp [Span.afterCall, hKind])
      | _ =>
        cases record? with
        | none =>
          simp only [hKind]
          exact eq_modify hSpan (by simp [Span.afterCall, hKind])
        | some r =>
          simp only [hKind]
          exact modify_congr hSpan (by simp [Span.afterCall, hKind])

/-- A call fails exactly where the span that it is made on does. -/
theorem isSome_call {t : Telemetry} {id : Nat} {s : Span} (hSpan : t.spans[id]? = some s)
    (c : SpanCall) : (t.call id c).2.isSome = s.fails c := by
  unfold call
  rcases hKind : s.kind with _ | ⟨journal, finished⟩ | ⟨_ | r, tracer, limits⟩ <;>
    cases c <;> simp [hSpan, hKind, Span.fails]
  split <;> simp_all

theorem spans_callActive (t : Telemetry) (active : ActiveSpan) (c : SpanCall) :
    (t.callActive active c).1.spans =
      match active.span? with
      | some id => t.spans.modify id (Span.afterActiveCall c)
      | none => t.spans := by
  unfold callActive
  cases active.span? with
  | none => rfl
  | some id =>
    dsimp only
    cases hSpan : t.spans[id]? with
    | none => exact (List.modify_eq_self (by simpa using hSpan)).symm
    | some s =>
      have hFails := isSome_call hSpan c
      have hSpans := spans_call t id c
      by_cases hPoisoned : s.poisoned = true
      · simp only [hPoisoned, if_true]
        exact eq_modify hSpan (by simp [Span.afterActiveCall, hPoisoned])
      · have hActive : s.afterActiveCall c = { s.afterCall c with poisoned := s.fails c } := by
          simp [Span.afterActiveCall, hPoisoned]
        simp only [hPoisoned]
        rcases hCall : t.call id c with ⟨t', _ | message⟩ <;> rw [hCall] at hFails hSpans
        · refine Eq.trans hSpans (modify_congr hSpan ?_)
          have hKept : (s.afterCall c).poisoned = false := by
            rw [Span.poisoned_afterCall]
            simpa using hPoisoned
          have hFine : s.fails c = false := hFails.symm
          rw [hActive, hFine, ← hKept]
        · have hFailed : s.fails c = true := hFails.symm
          show t'.spans.modify id (fun s => { s with poisoned := true }) = _
          rw [show t'.spans = t.spans.modify id (Span.afterCall c) from hSpans,
            List.modify_modify_eq]
          refine modify_congr hSpan ?_
          rw [hActive, hFailed]
          rfl

theorem spans_start (t : Telemetry) (tracer : Tracer) (name : String) (cx : Context) :
    (t.start tracer name cx).1.spans = t.spans ++ [t.begun tracer name cx] := by
  unfold start begun
  cases t.providers[tracer.provider]? with
  | none => rfl
  | some p =>
    by_cases hClosed : p.closed = true
    · simp [hClosed, addSpan]
    · simp [hClosed, addSpan, modifyProvider]

theorem spans_close (t : Telemetry) (p : Nat) : (t.close p).1.spans = t.spans :=
  spans_shutdownEach _ _ _

theorem fst_flush (t : Telemetry) (p : Nat) :
    (t.flush p).1 = if t.isClosed p then t else (flushEach (t.exportersOf p) t).1 := by
  unfold flush
  split
  · rfl
  · split <;> rename_i hFlush <;> rw [hFlush]

theorem fst_shutdown (t : Telemetry) (p : Nat) :
    (t.shutdown p).1 = if t.isClosed p then t else (t.close p).1 := by
  unfold shutdown
  split
  · rfl
  · split <;> rename_i hShut <;> rw [hShut]

theorem spans_flush (t : Telemetry) (p : Nat) : (t.flush p).1.spans = t.spans := by
  rw [fst_flush]
  split
  · rfl
  · rw [flushEach_eq_foldl]
    exact foldl_keeps _ (·.spans) (fun t id => spans_callExporter t id .flush) _ t

theorem spans_shutdown (t : Telemetry) (p : Nat) : (t.shutdown p).1.spans = t.spans := by
  rw [fst_shutdown]
  split
  · rfl
  · exact spans_close t p

theorem spans_releaseProvider (t : Telemetry) (p : Nat) :
    (t.releaseProvider p).spans = t.spans := by
  unfold releaseProvider
  split
  · rfl
  · exact spans_close t p

theorem foldl_report (reports : List Diagnostic) (t : Telemetry) :
    reports.foldl report t = { t with log := t.log ++ reports } := by
  induction reports generalizing t with
  | nil => simp
  | cons d rest ih =>
    rw [List.foldl_cons, ih]
    simp [report]

theorem spans_makeProvider (t : Telemetry) (plan : ProviderPlan) (env : Surroundings) :
    (t.makeProvider plan env).spans = t.spans := by
  unfold makeProvider addPlanned
  split
  · dsimp only
    rw [foldl_report]
    rfl
  · rfl

/-- An act changes the spans that were there before, and may add one. -/
theorem spans_after (t : Telemetry) (a : Act) :
    (t.after a).spans = t.spans.mapIdx a.onSpan ++ (t.newSpan? a).toList := by
  have hKeeps : ∀ a : Act, (∀ id s, a.onSpan id s = s) → t.spans.mapIdx a.onSpan = t.spans :=
    fun a h => mapIdx_keeps h t.spans
  cases a with
  | call id c =>
    show (t.call id c).1.spans = t.spans.mapIdx _ ++ []
    rw [spans_call, modify_eq_mapIdx, List.append_nil]
    rfl
  | callActive active c =>
    show (t.callActive active c).1.spans = t.spans.mapIdx _ ++ []
    rw [spans_callActive, List.append_nil]
    cases hSpan : active.span? with
    | none => rw [hKeeps _ (by simp [Act.onSpan, hSpan])]
    | some id =>
      dsimp only
      rw [modify_eq_mapIdx]
      congr 1
      funext j s
      simp [Act.onSpan, hSpan]
  | releaseSpan id =>
    show (t.finish id t.now).spans.modify id _ = t.spans.mapIdx _ ++ []
    rw [spans_finish, List.modify_modify_eq, modify_eq_mapIdx, List.append_nil]
    rfl
  | start tracer name cx =>
    rw [hKeeps _ (fun _ _ => rfl)]
    exact spans_start t tracer name cx
  | provider plan env =>
    rw [hKeeps _ (fun _ _ => rfl)]
    exact (spans_makeProvider t plan env).trans (List.append_nil _).symm
  | flush p =>
    rw [hKeeps _ (fun _ _ => rfl)]
    exact (spans_flush t p).trans (List.append_nil _).symm
  | shutdown p =>
    rw [hKeeps _ (fun _ _ => rfl)]
    exact (spans_shutdown t p).trans (List.append_nil _).symm
  | releaseProvider p =>
    rw [hKeeps _ (fun _ _ => rfl)]
    exact (spans_releaseProvider t p).trans (List.append_nil _).symm
  | inert sc | journaled sc =>
    rw [hKeeps _ (fun _ _ => rfl)]
    rfl
  | exporter kind | clear id | report d | takeLog | readJournal journal | elapse now =>
    rw [hKeeps _ (fun _ _ => rfl)]
    exact (List.append_nil _).symm

/-! ## Providers -/

theorem providers_call (t : Telemetry) (id : Nat) (c : SpanCall) :
    (t.call id c).1.providers = t.providers := by
  unfold call
  split
  · rfl
  · split
    · rfl
    · split <;> rfl
    · rfl
    · rfl
    · exact providers_finish t id _
    · rfl
    · rfl

theorem providers_callActive (t : Telemetry) (active : ActiveSpan) (c : SpanCall) :
    (t.callActive active c).1.providers = t.providers := by
  unfold callActive
  split
  · rfl
  · rename_i id _
    have hCall := providers_call t id c
    split
    · rfl
    · split
      · rfl
      · split <;> rename_i hResult <;> rw [hResult] at hCall <;> exact hCall

theorem providers_flush (t : Telemetry) (p : Nat) : (t.flush p).1.providers = t.providers := by
  rw [fst_flush]
  split
  · rfl
  · rw [flushEach_eq_foldl]
    exact foldl_keeps _ (·.providers) (fun t id => providers_callExporter t id .flush) _ t

theorem providers_start (t : Telemetry) (tracer : Tracer) (name : String) (cx : Context) :
    (t.start tracer name cx).1.providers =
      t.providers.modify tracer.provider fun p =>
        if p.closed = false then (beginning p name cx).provider else p := by
  unfold start
  cases hProvider : t.providers[tracer.provider]? with
  | none =>
    show t.providers = _
    exact (List.modify_eq_self (by simpa using hProvider)).symm
  | some p =>
    by_cases hClosed : p.closed = true
    · simp only [hClosed, if_true]
      exact eq_modify hProvider (by simp [hClosed])
    · simp only [hClosed]
      exact modify_congr hProvider (by simp [hClosed])

theorem isClosed_eq {t : Telemetry} {id : Nat} {p : Provider} (h : t.providers[id]? = some p) :
    t.isClosed id = p.closed := by
  simp [isClosed, h]

theorem isClosed_of_length_le {t : Telemetry} {id : Nat} (h : t.providers.length ≤ id) :
    t.isClosed id = true := by
  simp [isClosed, List.getElem?_eq_none h]

theorem providers_close (t : Telemetry) (id : Nat) :
    (t.close id).1.providers = t.providers.modify id fun p => { p with closed := true } :=
  providers_shutdownEach _ _ _

/-- Closing changes no provider that is closed. -/
private theorem modify_close_eq_self {t : Telemetry} {id : Nat} (h : t.isClosed id = true) :
    (t.providers.modify id fun p => { p with closed := true }) = t.providers := by
  cases hProvider : t.providers[id]? with
  | none => exact List.modify_eq_self (by simpa using hProvider)
  | some p =>
    have hClosed : p.closed = true := by
      rw [← isClosed_eq hProvider]
      exact h
    refine (eq_modify hProvider ?_).symm
    rw [← hClosed]

theorem providers_shutdown (t : Telemetry) (id : Nat) :
    (t.shutdown id).1.providers = t.providers.modify id fun p => { p with closed := true } := by
  rw [fst_shutdown]
  split
  · rename_i hClosed
    exact (modify_close_eq_self hClosed).symm
  · exact providers_close t id

theorem providers_releaseProvider (t : Telemetry) (id : Nat) :
    (t.releaseProvider id).providers =
      t.providers.modify id fun p => { p with closed := true, released := true } := by
  have hTwice : (t.providers.modify id fun p => { p with closed := true }).modify id
      (fun p => { p with released := true }) =
        t.providers.modify id fun p => { p with closed := true, released := true } := by
    rw [List.modify_modify_eq]
    rfl
  rw [← hTwice]
  unfold releaseProvider
  split
  · rename_i hClosed
    rw [modify_close_eq_self hClosed]
    rfl
  · rw [← providers_close]
    rfl

theorem providers_makeProvider (t : Telemetry) (plan : ProviderPlan) (env : Surroundings) :
    (t.makeProvider plan env).providers =
      t.providers ++ (t.newProvider? (.provider plan env)).toList := by
  unfold makeProvider newProvider? addPlanned
  by_cases hThere : plan.exporters.all (· < t.exporters.length) = true
  · simp only [hThere, if_true]
    rw [foldl_report]
    rfl
  · simp only [hThere]
    exact (List.append_nil _).symm

/-- An act changes the providers that were there before, and may add one. -/
theorem providers_after (t : Telemetry) (a : Act) :
    (t.after a).providers = t.providers.mapIdx a.onProvider ++ (t.newProvider? a).toList := by
  have hKeeps : ∀ a : Act, (∀ id p, a.onProvider id p = p) →
      t.providers.mapIdx a.onProvider = t.providers := fun a h => mapIdx_keeps h t.providers
  cases a with
  | start tracer name cx =>
    show (t.start tracer name cx).1.providers = t.providers.mapIdx _ ++ []
    rw [providers_start, modify_eq_mapIdx, List.append_nil]
    congr 1
    funext j p
    by_cases hSame : tracer.provider = j <;> simp [Act.onProvider, hSame]
  | shutdown id =>
    show (t.shutdown id).1.providers = t.providers.mapIdx _ ++ []
    rw [providers_shutdown, modify_eq_mapIdx, List.append_nil]
    rfl
  | releaseProvider id =>
    show (t.releaseProvider id).providers = t.providers.mapIdx _ ++ []
    rw [providers_releaseProvider, modify_eq_mapIdx, List.append_nil]
    rfl
  | provider plan env =>
    rw [hKeeps _ (fun _ _ => rfl)]
    exact providers_makeProvider t plan env
  | call id c =>
    rw [hKeeps _ (fun _ _ => rfl)]
    exact (providers_call t id c).trans (List.append_nil _).symm
  | callActive active c =>
    rw [hKeeps _ (fun _ _ => rfl)]
    exact (providers_callActive t active c).trans (List.append_nil _).symm
  | releaseSpan id =>
    rw [hKeeps _ (fun _ _ => rfl)]
    exact (providers_finish t id t.now).trans (List.append_nil _).symm
  | flush id =>
    rw [hKeeps _ (fun _ _ => rfl)]
    exact (providers_flush t id).trans (List.append_nil _).symm
  | exporter kind | inert sc | journaled sc | clear id | report d | takeLog
  | readJournal journal | elapse now =>
    rw [hKeeps _ (fun _ _ => rfl)]
    exact (List.append_nil _).symm

/-! ## One by one -/

private theorem getElem?_grown {α : Type} {l : List α} {f : Nat → α → α} {new? : Option α}
    {i : Nat} {b : α} (h : (l.mapIdx f ++ new?.toList)[i]? = some b) :
    (∃ a, l[i]? = some a ∧ b = f i a) ∨ (i = l.length ∧ new? = some b) := by
  by_cases hi : i < l.length
  · rw [List.getElem?_append_left (by simpa using hi), List.getElem?_mapIdx] at h
    obtain ⟨a, hOld, hNew⟩ := Option.map_eq_some_iff.1 h
    exact Or.inl ⟨a, hOld, hNew.symm⟩
  · right
    rw [List.getElem?_append_right (by simpa using hi), List.length_mapIdx] at h
    cases new? with
    | none => simp at h
    | some c =>
      obtain ⟨hEnd, hSame⟩ : i - l.length = 0 ∧ c = b := by
        simpa [List.getElem?_singleton] using h
      exact ⟨by omega, congrArg some hSame⟩

private theorem getElem?_kept {α : Type} {l : List α} {f : Nat → α → α} {i : Nat} {a : α}
    (h : l[i]? = some a) (new? : Option α) :
    (l.mapIdx f ++ new?.toList)[i]? = some (f i a) := by
  obtain ⟨hi, -⟩ := List.getElem?_eq_some_iff.1 h
  rw [List.getElem?_append_left (by simpa using hi), List.getElem?_mapIdx, h]
  rfl

/-- A span after an act was there before, or is the one that the act adds. -/
theorem span_after_cases {t : Telemetry} {a : Act} {id : Nat} {s' : Span}
    (h : (t.after a).spans[id]? = some s') :
    (∃ s, t.spans[id]? = some s ∧ s' = a.onSpan id s) ∨
      (id = t.spans.length ∧ t.newSpan? a = some s') := by
  rw [spans_after] at h
  exact getElem?_grown h

theorem span_after {t : Telemetry} {id : Nat} {s : Span} (h : t.spans[id]? = some s) (a : Act) :
    (t.after a).spans[id]? = some (a.onSpan id s) := by
  rw [spans_after]
  exact getElem?_kept h _

/-- A provider after an act was there before, or is the one that the act adds. -/
theorem provider_after_cases {t : Telemetry} {a : Act} {id : Nat} {p' : Provider}
    (h : (t.after a).providers[id]? = some p') :
    (∃ p, t.providers[id]? = some p ∧ p' = a.onProvider id p) ∨
      (id = t.providers.length ∧ t.newProvider? a = some p') := by
  rw [providers_after] at h
  exact getElem?_grown h

theorem provider_after {t : Telemetry} {id : Nat} {p : Provider} (h : t.providers[id]? = some p)
    (a : Act) : (t.after a).providers[id]? = some (a.onProvider id p) := by
  rw [providers_after]
  exact getElem?_kept h _

theorem length_spans_after (t : Telemetry) (a : Act) :
    (t.after a).spans.length = t.spans.length + (t.newSpan? a).toList.length := by
  rw [spans_after, List.length_append, List.length_mapIdx]

theorem length_providers_after (t : Telemetry) (a : Act) :
    (t.after a).providers.length = t.providers.length + (t.newProvider? a).toList.length := by
  rw [providers_after, List.length_append, List.length_mapIdx]

/-! ## What acts leave as it is -/

@[simp] theorem exporters_onProvider (a : Act) (id : Nat) (p : Provider) :
    (a.onProvider id p).exporters = p.exporters := by
  unfold Act.onProvider
  split
  · split <;> rfl
  · split <;> rfl
  · split <;> rfl
  · rfl

theorem exportersOf_after {t : Telemetry} {p : Nat} (h : p < t.providers.length) (a : Act) :
    (t.after a).exportersOf p = t.exportersOf p := by
  have hGet := List.getElem?_eq_getElem h
  unfold exportersOf
  rw [provider_after hGet, hGet]
  exact exporters_onProvider a p _

/-- A provider is closed by the acts that shut it down, and stays so. -/
theorem closed_onProvider (a : Act) (id : Nat) (p : Provider) :
    (a.onProvider id p).closed = true ↔ p.closed = true ∨ a.closes? = some id := by
  unfold Act.onProvider Act.closes?
  cases a with
  | start tracer name cx =>
    dsimp only
    split
    · simp [beginning]
    · simp
  | shutdown other | releaseProvider other =>
    dsimp only
    by_cases hSame : other = id <;> simp [hSame]
  | _ => simp

@[simp] theorem context_onSpan (a : Act) (id : Nat) (s : Span) :
    (a.onSpan id s).context = s.context := by
  unfold Act.onSpan Span.afterActiveCall Span.afterRelease
  split
  · split <;> simp
  · split
    · split <;> simp
    · rfl
  · split <;> simp
  · rfl

theorem released_onSpan {a : Act} (h : ∀ other, a ≠ .releaseSpan other) (id : Nat) (s : Span) :
    (a.onSpan id s).released = s.released := by
  unfold Act.onSpan Span.afterActiveCall
  split
  · split <;> simp
  · split
    · split <;> simp
    · rfl
  · exact absurd rfl (h _)
  · rfl

theorem released_onProvider {a : Act} (h : ∀ other, a ≠ .releaseProvider other) (id : Nat)
    (p : Provider) : (a.onProvider id p).released = p.released := by
  unfold Act.onProvider
  split
  · split <;> rfl
  · split <;> rfl
  · exact absurd rfl (h _)
  · rfl

@[simp] theorem provider?_onSpan (a : Act) (id : Nat) (s : Span) :
    (a.onSpan id s).provider? = s.provider? := by
  unfold Act.onSpan Span.afterActiveCall Span.afterRelease
  split
  · split <;> simp
  · split
    · split
      · rfl
      · exact Span.provider?_afterCall _ s
    · rfl
  · split
    · exact Span.provider?_ended s
    · rfl
  · rfl

/-- A span of a provider does not fail. -/
theorem poisoned_onSpan {a : Act} {id : Nat} {s : Span} (h : (a.onSpan id s).poisoned = true) :
    s.poisoned = true ∨ s.provider? = none := by
  unfold Act.onSpan Span.afterActiveCall Span.afterRelease at h
  split at h
  · split at h <;> simp_all
  · split at h
    · split at h
      · exact Or.inl h
      · exact Or.inr (Span.provider?_of_fails h)
    · exact Or.inl h
  · split at h <;> simp_all
  · exact Or.inl h

/-- A span without a record never has one again. -/
theorem data?_onSpan (a : Act) (id : Nat) {s : Span} (h : s.data? = none) :
    (a.onSpan id s).data? = none := by
  have hCall : ∀ c, (s.afterCall c).data? = none := by
    intro c
    have hKept := Span.isSome_data?_afterCall c s
    rw [h] at hKept
    simpa using hKept
  unfold Act.onSpan Span.afterActiveCall
  split
  · split
    · exact hCall _
    · exact h
  · split
    · split
      · exact h
      · exact hCall _
    · exact h
  · split
    · exact Span.data?_ended s
    · exact h
  · exact h

/-- A new span has neither failed nor been released. -/
theorem newSpan?_eq_some {t : Telemetry} {a : Act} {s : Span} (h : t.newSpan? a = some s) :
    s.poisoned = false ∧ s.released = false := by
  unfold newSpan? begun at h
  split at h
  · cases h
    exact ⟨rfl, rfl⟩
  · cases h
    exact ⟨rfl, rfl⟩
  · cases h
    split
    · exact ⟨rfl, rfl⟩
    · split <;> exact ⟨rfl, rfl⟩
  · cases h

/-- A new span has the provider that it was started by. -/
theorem provider?_newSpan? {t : Telemetry} {a : Act} {s : Span} {p : Nat}
    (h : t.newSpan? a = some s) (hProvider : s.provider? = some p) :
    ∃ tracer name cx, a = .start tracer name cx ∧ tracer.provider = p := by
  cases a with
  | inert sc | journaled sc =>
    cases h
    cases hProvider
  | start tracer name cx =>
    refine ⟨tracer, name, cx, rfl, ?_⟩
    cases h
    unfold begun at hProvider
    split at hProvider
    · exact Option.some.inj hProvider
    · split at hProvider <;> exact Option.some.inj hProvider
  | _ => cases h

/-- A new provider is open. -/
theorem newProvider?_eq_some {t : Telemetry} {a : Act} {p : Provider}
    (h : t.newProvider? a = some p) :
    p.closed = false ∧ p.released = false ∧ ∃ plan env, a = .provider plan env := by
  cases a with
  | provider plan env =>
    simp only [newProvider?, Option.ite_none_right_eq_some, Option.some.injEq] at h
    obtain ⟨-, rfl⟩ := h
    exact ⟨rfl, rfl, plan, env, rfl⟩
  | _ => cases h

/-- A span that has not failed keeps what it records until an act ends it. -/
theorem isSome_data?_onSpan (a : Act) (id : Nat) {s : Span} (h : s.poisoned = false) :
    (a.onSpan id s).data?.isSome = (s.data?.isSome && a.ended? != some id) := by
  cases a with
  | call other c =>
    by_cases hSame : other = id
    · cases hEnds : c.ends? <;>
        simp [Act.onSpan, Act.ended?, hSame, Span.isSome_data?_afterCall, hEnds]
    · cases hEnds : c.ends? <;> simp [Act.onSpan, Act.ended?, hSame, hEnds]
  | callActive active c =>
    by_cases hSame : active.span? = some id
    · have hCall : (s.afterActiveCall c).data? = (s.afterCall c).data? := by
        simp [Span.afterActiveCall, h, Span.data?]
      cases hEnds : c.ends? <;>
        simp [Act.onSpan, Act.ended?, hSame, hCall, Span.isSome_data?_afterCall, hEnds]
    · cases hEnds : c.ends? <;> simp [Act.onSpan, Act.ended?, hSame, hEnds]
  | releaseSpan other =>
    by_cases hSame : other = id
    · have hRelease : s.afterRelease.data? = none := Span.data?_ended s
      simp [Act.onSpan, Act.ended?, hSame, hRelease]
    · simp [Act.onSpan, Act.ended?, hSame]
  | _ => simp [Act.onSpan, Act.ended?]

end Telemetry

end SpanFlow
