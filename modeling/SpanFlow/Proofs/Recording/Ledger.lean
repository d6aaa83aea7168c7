import SpanFlow.Proofs.Recording.Told

/-!
# The ledger of a run

What exporters are to receive can be told from the acts of a run alone, by somebody who keeps a
ledger: with which decision every span was started, which spans were ended and which providers shut
down, and, at the first end of a span that is to be exported, what the span had recorded until then.

The ledger knows nothing of how a span keeps its record or how a provider is closed. This module
relates it to what the acts do.

## Main results

* `accounts_ledger`: the ledger of any run agrees with the state that the run leads to, and
  exporters have received just what the ledger says.
-/

namespace SpanFlow.Telemetry

/-- The first end of a span that is to be exported: when the span ends, by what the caller states or
else by the clock at that end, and what it had recorded just before. -/
structure Ending where
  span : Nat
  provider : Nat
  time : Timestamp
  snapshot? : Option SpanData

/-- The call by which an exporter is handed the span: the snapshot, with the time of the end. -/
def Ending.call? (x : Ending) : Option ExporterCall :=
  x.snapshot?.map fun d => .export [{ d with finish := x.time }]

/-- The calls by which an exporter receives the span. -/
def Ending.receipts (x : Ending) (t : Telemetry) (exporter : Nat) : List (Option ExporterCall) :=
  List.replicate ((t.exportersOf x.provider).count exporter) x.call?

/-- What is noted of a run. A span is born with its provider and the decision that it was started
with; one that no open provider started is born with neither. -/
structure Ledger where
  born : List (Option (Nat × SamplingDecision))
  ended : List Nat
  shut : List Nat
  endings : List Ending

namespace Ledger

/-- Nothing noted. -/
def empty : Ledger := ⟨[], [], [], []⟩

/-- What a span that is started is born with. -/
def started? (l : Ledger) (t : Telemetry) (tracer : Tracer) (name : String) (cx : Context) :
    Option (Nat × SamplingDecision) :=
  if tracer.provider ∈ l.shut then none
  else
    t.providers[tracer.provider]?.map fun p =>
      (tracer.provider, (beginning p name cx).result.decision)

/-- What the span that an act adds is born with. -/
def birth? (l : Ledger) (t : Telemetry) : Act → Option (Option (Nat × SamplingDecision))
  | .inert _ | .journaled _ => some none
  | .start tracer name cx => some (l.started? t tracer name cx)
  | _ => none

/-- The ending to note for an act: it ends a span for the first time, the span was to be recorded
and sampled, and its provider is not shut down. -/
def ending? (l : Ledger) (t : Telemetry) (a : Act) : Option Ending :=
  match a.ends? t.now with
  | none => none
  | some (id, time) =>
    match l.born[id]? with
    | some (some (p, d)) =>
      if d = .recordAndSample ∧ id ∉ l.ended ∧ p ∉ l.shut then
        some ⟨id, p, time, t.dataOf? id⟩
      else none
    | _ => none

/-- The ledger after an act has been noted. -/
def note (l : Ledger) (t : Telemetry) (a : Act) : Ledger where
  born := l.born ++ (l.birth? t a).toList
  ended := l.ended ++ (a.ended?.filter (· < t.spans.length)).toList
  shut := l.shut ++ (a.closes?.filter fun p => p < t.providers.length ∧ p ∉ l.shut).toList
  endings := l.endings ++ (l.ending? t a).toList

/-- The ledger after acts have been noted, one after the other. -/
def noteAll (l : Ledger) (t : Telemetry) : List Act → Ledger
  | [] => l
  | a :: rest => (l.note t a).noteAll (t.after a) rest

end Ledger

/-- The ledger of a run. -/
def ledger (acts : List Act) : Ledger := Ledger.empty.noteAll empty acts

theorem noteAll_append (l : Ledger) (t : Telemetry) (acts others : List Act) :
    l.noteAll t (acts ++ others) = (l.noteAll t acts).noteAll (t.afterAll acts) others := by
  induction acts generalizing l t with
  | nil => rfl
  | cons a rest ih => exact ih (l.note t a) (t.after a)

theorem ledger_append (acts others : List Act) :
    ledger (acts ++ others) = (ledger acts).noteAll (empty.afterAll acts) others :=
  noteAll_append _ _ _ _

/-! ## Agreement -/

/-- A span is as its birth and whether it was ended say. -/
def Matches (s : Span) (ended : Prop) : Option (Nat × SamplingDecision) → Prop
  | none => s.data? = none
  | some (p, d) =>
    s.provider? = some p ∧ s.poisoned = false ∧
      (s.context.isSampled = true ↔ d = .recordAndSample) ∧
      (s.data?.isSome = true ↔ d ≠ .drop ∧ ¬ ended)

/-- A ledger says what is the case. -/
structure Agrees (l : Ledger) (t : Telemetry) : Prop where
  sound : Sound t
  length_born : l.born.length = t.spans.length
  span : ∀ id s, t.spans[id]? = some s → ∃ born?, l.born[id]? = some born? ∧
    Matches s (id ∈ l.ended) born?
  provider_lt : ∀ p d, some (p, d) ∈ l.born → p < t.providers.length
  closed : ∀ p q, t.providers[p]? = some q → (q.closed = true ↔ p ∈ l.shut)
  ended_lt : ∀ id ∈ l.ended, id < t.spans.length
  shut_lt : ∀ p ∈ l.shut, p < t.providers.length

/-- What is born is there. -/
theorem Agrees.span_of_born {l : Ledger} {t : Telemetry} (h : Agrees l t) {id : Nat}
    {born? : Option (Nat × SamplingDecision)} (hBorn : l.born[id]? = some born?) :
    ∃ s, t.spans[id]? = some s ∧ Matches s (id ∈ l.ended) born? := by
  have hLt : id < t.spans.length := by
    obtain ⟨hLt, -⟩ := List.getElem?_eq_some_iff.1 hBorn
    rw [← h.length_born]
    exact hLt
  have hSpan := List.getElem?_eq_getElem hLt
  obtain ⟨other?, hSame, hMatches⟩ := h.span id _ hSpan
  rw [hBorn] at hSame
  cases hSame
  exact ⟨_, hSpan, hMatches⟩

/-- What is noted as shut down is what is closed. -/
theorem Agrees.mem_shut {l : Ledger} {t : Telemetry} (h : Agrees l t) {p : Nat} :
    p ∈ l.shut ↔ p < t.providers.length ∧ t.isClosed p = true := by
  by_cases hp : p < t.providers.length
  · have hGet := List.getElem?_eq_getElem hp
    rw [isClosed_eq hGet, h.closed p _ hGet]
    simp [hp]
  · refine iff_of_false (fun hShut => hp (h.shut_lt p hShut)) fun hBoth => hp hBoth.1

theorem agrees_empty : Agrees .empty empty where
  sound := sound_empty
  length_born := rfl
  span id s h := by simp [empty] at h
  provider_lt p d h := by simp [Ledger.empty] at h
  closed p q h := by simp [empty] at h
  ended_lt id h := by simp [Ledger.empty] at h
  shut_lt p h := by simp [Ledger.empty] at h

/-- An act changes a span as the ledger notes it. -/
theorem matches_onSpan {s : Span} {ended : Prop} {born? : Option (Nat × SamplingDecision)}
    (h : Matches s ended born?) (a : Act) (id : Nat) :
    Matches (a.onSpan id s) (ended ∨ a.ended? = some id) born? := by
  cases born? with
  | none => exact data?_onSpan a id h
  | some b =>
    obtain ⟨hProvider, hFine, hSampled, hData⟩ := h
    refine ⟨by rw [provider?_onSpan, hProvider], ?_, by rw [context_onSpan, hSampled], ?_⟩
    · cases hPoisoned : (a.onSpan id s).poisoned with
      | false => rfl
      | true =>
        rcases poisoned_onSpan hPoisoned with hOld | hForeign
        · rw [hFine] at hOld
          cases hOld
        · rw [hProvider] at hForeign
          cases hForeign
    · rw [isSome_data?_onSpan a id hFine, Bool.and_eq_true, hData, bne_iff_ne, not_or]
      exact and_assoc

theorem length_birth? (l : Ledger) (t : Telemetry) (a : Act) :
    (l.birth? t a).toList.length = (t.newSpan? a).toList.length := by
  cases a <;> rfl

/-- A span that is dropped has no record; any other has one. -/
theorem isSome_record? (b : Beginning) (name : String) (now : Timestamp) :
    (b.record? name now).isSome = true ↔ b.result.decision ≠ .drop := by
  unfold Beginning.record?
  cases b.result.decision <;> simp

theorem matches_begun {l : Ledger} {t : Telemetry} (h : Agrees l t) (tracer : Tracer)
    (name : String) (cx : Context) :
    Matches (t.begun tracer name cx) False (l.started? t tracer name cx) := by
  unfold begun Ledger.started?
  cases hProvider : t.providers[tracer.provider]? with
  | none =>
    have hNone : (if tracer.provider ∈ l.shut then none
        else Option.map (fun p => (tracer.provider, (beginning p name cx).result.decision)) none) =
          none := by
      split <;> rfl
    rw [hNone]
    rfl
  | some p =>
    have hClosed := h.closed _ p hProvider
    by_cases hShut : tracer.provider ∈ l.shut
    · rw [if_pos hShut]
      simp only [hClosed.2 hShut, if_true]
      rfl
    · have hOpen : ¬ p.closed = true := fun hp => hShut (hClosed.1 hp)
      rw [if_neg hShut]
      simp only [hOpen]
      refine ⟨rfl, rfl, ?_, ?_⟩
      · show (TraceFlags.withSampled _ _).isSampled = true ↔ _
        rw [TraceFlags.isSampled_withSampled]
        exact beq_iff_eq
      · have hRecord := isSome_record? (beginning p name cx) name t.now
        simp only [not_false_eq_true, and_true, ← hRecord]
        cases (beginning p name cx).record? name t.now <;> simp [Span.data?, Span.fresh]

/-- A new span is as the ledger notes its birth. -/
theorem matches_newSpan? {l : Ledger} {t : Telemetry} (h : Agrees l t) {a : Act} {s : Span}
    (hNew : t.newSpan? a = some s) :
    ∃ born?, l.birth? t a = some born? ∧ Matches s False born? := by
  cases a with
  | inert sc | journaled sc =>
    cases hNew
    exact ⟨none, rfl, rfl⟩
  | start tracer name cx =>
    cases hNew
    exact ⟨_, rfl, matches_begun h tracer name cx⟩
  | _ => simp [newSpan?] at hNew

/-- A span is born with a provider only if that one is there. -/
theorem provider_lt_of_birth? {l : Ledger} {t : Telemetry} {a : Act} {p : Nat}
    {d : SamplingDecision} (h : l.birth? t a = some (some (p, d))) : p < t.providers.length := by
  cases a with
  | start tracer name cx =>
    have hStarted : l.started? t tracer name cx = some (p, d) := Option.some.inj h
    unfold Ledger.started? at hStarted
    split at hStarted
    · cases hStarted
    · obtain ⟨q, hGet, hSame⟩ := Option.map_eq_some_iff.1 hStarted
      obtain ⟨hLt, -⟩ := List.getElem?_eq_some_iff.1 hGet
      have hProvider : tracer.provider = p := congrArg Prod.fst hSame
      omega
  | _ => simp [Ledger.birth?] at h

theorem mem_ended_note {l : Ledger} {t : Telemetry} {a : Act} {id : Nat} :
    id ∈ (l.note t a).ended ↔
      id ∈ l.ended ∨ (a.ended? = some id ∧ id < t.spans.length) := by
  simp only [Ledger.note, List.mem_append, Option.mem_toList, Option.filter_eq_some_iff,
    decide_eq_true_eq]

theorem mem_shut_note {l : Ledger} {t : Telemetry} {a : Act} {p : Nat} :
    p ∈ (l.note t a).shut ↔ p ∈ l.shut ∨ (a.closes? = some p ∧ p < t.providers.length) := by
  simp only [Ledger.note, List.mem_append, Option.mem_toList, Option.filter_eq_some_iff,
    decide_eq_true_eq]
  by_cases hShut : p ∈ l.shut <;> simp [hShut]

/-- What an act does agrees with what is noted of it. -/
theorem Agrees.note {l : Ledger} {t : Telemetry} (h : Agrees l t) (a : Act) :
    Agrees (l.note t a) (t.after a) where
  sound := h.sound.after a
  length_born := by
    show (l.born ++ (l.birth? t a).toList).length = _
    rw [List.length_append, h.length_born, length_birth?, length_spans_after]
  span id s' hGet := by
    show ∃ born?, (l.born ++ (l.birth? t a).toList)[id]? = some born? ∧ _
    rcases span_after_cases hGet with ⟨s, hOld, rfl⟩ | ⟨rfl, hNew⟩
    · obtain ⟨born?, hBorn, hMatches⟩ := h.span id s hOld
      obtain ⟨hLt, -⟩ := List.getElem?_eq_some_iff.1 hBorn
      have hThere : id < t.spans.length := by
        have hLength := h.length_born
        omega
      refine ⟨born?, by rw [List.getElem?_append_left hLt, hBorn], ?_⟩
      have hEnded : (id ∈ (l.note t a).ended) =
          (id ∈ l.ended ∨ a.ended? = some id) := by
        rw [mem_ended_note]
        simp [hThere]
      rw [hEnded]
      exact matches_onSpan hMatches a id
    · obtain ⟨born?, hBirth, hMatches⟩ := matches_newSpan? h hNew
      refine ⟨born?, ?_, ?_⟩
      · rw [List.getElem?_append_right (Nat.le_of_eq h.length_born), h.length_born,
          hBirth]
        simp
      · have hNot : (t.spans.length ∈ (l.note t a).ended) = False := by
          rw [mem_ended_note]
          refine eq_false ?_
          rintro (hOld | ⟨-, hLt⟩)
          · have hLt := h.ended_lt _ hOld
            omega
          · omega
        rw [hNot]
        exact hMatches
  provider_lt p d hBorn := by
    have hLength := length_providers_after t a
    rcases List.mem_append.1 hBorn with hOld | hNew
    · have hLt := h.provider_lt p d hOld
      omega
    · have hLt := provider_lt_of_birth? (Option.mem_toList.1 hNew)
      omega
  closed p q' hGet := by
    rw [mem_shut_note]
    rcases provider_after_cases hGet with ⟨q, hOld, rfl⟩ | ⟨rfl, hNew⟩
    · obtain ⟨hLt, -⟩ := List.getElem?_eq_some_iff.1 hOld
      rw [closed_onProvider, h.closed p q hOld]
      simp [hLt]
    · obtain ⟨hOpen, -, plan, env, rfl⟩ := newProvider?_eq_some hNew
      have hNot : t.providers.length ∉ l.shut := fun hShut => by
        have hLt := h.shut_lt _ hShut
        omega
      simp [hOpen, hNot, Act.closes?]
  ended_lt id hEnded := by
    have hLength := length_spans_after t a
    rcases mem_ended_note.1 hEnded with hOld | ⟨-, hLt⟩
    · have hLt := h.ended_lt id hOld
      omega
    · omega
  shut_lt p hShut := by
    have hLength := length_providers_after t a
    rcases mem_shut_note.1 hShut with hOld | ⟨-, hLt⟩
    · have hLt := h.shut_lt p hOld
      omega
    · omega

/-! ## Exports -/

/-- Whether a call hands on spans. -/
def isExport : ExporterCall → Bool
  | .export _ => true
  | _ => false

/-- Whether a call shuts down. -/
def isShutdown : ExporterCall → Bool
  | .shutdown => true
  | _ => false

/-- The calls by which an exporter was handed spans, in order. -/
def exportsOf (t : Telemetry) (exporter : Nat) : List ExporterCall :=
  (t.callsOf exporter).filter isExport

/-- What a delivery hands to an exporter are exports. -/
theorem filter_receipts (t : Telemetry) (e : Nat) (delivery? : Option (Nat × SpanData)) :
    (t.receipts e delivery?).filter isExport = t.receipts e delivery? := by
  cases delivery? <;> simp [receipts, isExport]

theorem filter_receipts_shutdown (t : Telemetry) (e : Nat)
    (delivery? : Option (Nat × SpanData)) :
    (t.receipts e delivery?).filter isShutdown = [] := by
  cases delivery? <;> simp [receipts, isShutdown]

theorem filter_told (t : Telemetry) (a : Act) (e : Nat) :
    (t.told a e).filter isExport =
      t.receipts e ((a.ends? t.now).bind fun x => t.delivery? x.1 x.2) := by
  have hReceipts := t.filter_receipts e ((a.ends? t.now).bind fun x => t.delivery? x.1 x.2)
  cases a with
  | flush p | shutdown p | releaseProvider p =>
    show List.filter isExport (if t.isClosed p then [] else _) = []
    split <;> simp [isExport]
  | _ => exact hReceipts

/-- Only an act that closes a provider shuts an exporter down. -/
theorem filter_told_shutdown {l : Ledger} {t : Telemetry} (h : Agrees l t) (a : Act) (e : Nat) :
    (t.told a e).filter isShutdown =
      (a.closes?.filter fun p => p < t.providers.length ∧ p ∉ l.shut).toList.flatMap fun p =>
        List.replicate ((t.exportersOf p).count e) .shutdown := by
  have hReceipts :=
    t.filter_receipts_shutdown e ((a.ends? t.now).bind fun x => t.delivery? x.1 x.2)
  have hClose : ∀ p, (if t.isClosed p then []
      else List.replicate ((t.exportersOf p).count e) ExporterCall.shutdown).filter isShutdown =
        ((some p).filter fun p => p < t.providers.length ∧ p ∉ l.shut).toList.flatMap fun p =>
          List.replicate ((t.exportersOf p).count e) .shutdown := by
    intro p
    have hShut := h.mem_shut (p := p)
    by_cases hLt : p < t.providers.length
    · by_cases hClosed : t.isClosed p = true
      · simp [Option.filter, hClosed, hShut, hLt]
      · simp [Option.filter, hClosed, hShut, hLt, isShutdown]
    · have hClosed := isClosed_of_length_le (Nat.not_lt.1 hLt)
      simp [Option.filter, hClosed, hLt]
  cases a with
  | shutdown p | releaseProvider p => exact hClose p
  | flush p =>
    show List.filter isShutdown (if t.isClosed p then [] else _) = []
    split <;> simp [isShutdown]
  | _ => exact hReceipts

theorem exportsOf_after {t : Telemetry} (h : Sound t) (a : Act) (e : Nat) :
    (t.after a).exportsOf e =
      t.exportsOf e ++ t.receipts e ((a.ends? t.now).bind fun x => t.delivery? x.1 x.2) := by
  unfold exportsOf
  rw [callsOf_after h, List.filter_append, filter_told]

/-- A span records from its start to its first end, unless it is dropped. -/
theorem Agrees.isSome_dataOf? {l : Ledger} {t : Telemetry} (h : Agrees l t) {id p : Nat}
    {d : SamplingDecision} (hBorn : l.born[id]? = some (some (p, d))) :
    (t.dataOf? id).isSome = true ↔ d ≠ .drop ∧ id ∉ l.ended := by
  obtain ⟨s, hSpan, -, -, -, hData⟩ := h.span_of_born hBorn
  rw [dataOf?, hSpan]
  exact hData

/-- A span is handed on when it ends if it was to be recorded and sampled, has not ended before,
and has a provider that is not shut down. -/
theorem delivery?_eq {l : Ledger} {t : Telemetry} (h : Agrees l t) {id p : Nat}
    {d : SamplingDecision} (hBorn : l.born[id]? = some (some (p, d))) (time : Timestamp) :
    t.delivery? id time =
      if d = .recordAndSample ∧ id ∉ l.ended ∧ p ∉ l.shut then
        (t.dataOf? id).map fun data => (p, { data with finish := time })
      else none := by
  obtain ⟨s, hSpan, hProvider, -, hSampled, hData⟩ := h.span_of_born hBorn
  have hShut : t.isClosed p = true ↔ p ∈ l.shut := by
    have hp := h.provider_lt p d (List.mem_of_getElem? hBorn)
    simp [h.mem_shut, hp]
  unfold delivery? dataOf?
  simp only [hSpan, Option.bind_eq_bind, Option.bind_some, hProvider]
  cases hRecord : s.data? with
  | none => simp
  | some data =>
    have hLive : d ≠ .drop ∧ id ∉ l.ended := hData.1 (by rw [hRecord]; rfl)
    simp only [Option.bind_some, Option.map_some]
    by_cases hClosed : p ∈ l.shut
    · simp [hShut.2 hClosed, hClosed]
    · have hOpen : t.isClosed p = false := by
        cases hp : t.isClosed p with
        | false => rfl
        | true => exact absurd (hShut.1 hp) hClosed
      by_cases hKept : d = .recordAndSample
      · simp [hOpen, hClosed, hLive.2, hKept, hSampled.2 hKept]
      · have hNot : s.context.isSampled = false := by
          cases hs : s.context.isSampled with
          | false => rfl
          | true => exact absurd (hSampled.1 hs) hKept
        simp [hOpen, hKept, hNot]

/-- What an act hands to exporters is the ending that is noted for it, and nothing if none is. -/
theorem receipts_eq_ending? {l : Ledger} {t : Telemetry} (h : Agrees l t) (a : Act) (e : Nat) :
    (t.receipts e ((a.ends? t.now).bind fun x => t.delivery? x.1 x.2)).map some =
      (l.ending? t a).toList.flatMap fun x => x.receipts t e := by
  unfold Ledger.ending?
  rcases a.ends? t.now with _ | ⟨id, time⟩
  · rfl
  · simp only [Option.bind_some]
    cases hBorn : l.born[id]? with
    | none =>
      have hData : t.dataOf? id = none := by
        rw [List.getElem?_eq_none_iff, h.length_born, ← List.getElem?_eq_none_iff] at hBorn
        simp [dataOf?, hBorn]
      rw [delivery?_eq_none hData]
      rfl
    | some born? =>
      rcases born? with _ | ⟨p, d⟩
      · obtain ⟨s, hSpan, hMatches⟩ := h.span_of_born hBorn
        have hData : t.dataOf? id = none := by
          rw [dataOf?, hSpan]
          exact hMatches
        rw [delivery?_eq_none hData]
        rfl
      · rw [delivery?_eq h hBorn]
        dsimp only
        by_cases hDue : d = .recordAndSample ∧ id ∉ l.ended ∧ p ∉ l.shut
        · have hSome : (t.dataOf? id).isSome = true :=
            (h.isSome_dataOf? hBorn).2 ⟨by simp [hDue.1], hDue.2.1⟩
          obtain ⟨data, hData⟩ := Option.isSome_iff_exists.1 hSome
          rw [if_pos hDue, if_pos hDue, hData]
          simp [receipts, Ending.receipts, Ending.call?]
        · rw [if_neg hDue, if_neg hDue]
          rfl

/-! ## Runs -/

/-- What is noted as an ending, and when. -/
theorem ending?_eq_some {l : Ledger} {t : Telemetry} {a : Act} {x : Ending}
    (h : l.ending? t a = some x) :
    a.ends? t.now = some (x.span, x.time) ∧
      l.born[x.span]? = some (some (x.provider, .recordAndSample)) ∧
      x.span ∉ l.ended ∧ x.provider ∉ l.shut ∧ x.snapshot? = t.dataOf? x.span := by
  unfold Ledger.ending? at h
  split at h
  · cases h
  · rename_i id time hEnds
    split at h
    · rename_i p d hBorn
      split at h
      · rename_i hDue
        obtain ⟨rfl, hNew, hOpen⟩ := hDue
        cases h
        exact ⟨hEnds, hBorn, hNew, hOpen, rfl⟩
      · cases h
    · cases h

theorem ending?_of_first {l : Ledger} {t : Telemetry} {a : Act} {id p : Nat} {time : Timestamp}
    (hEnds : a.ends? t.now = some (id, time))
    (hBorn : l.born[id]? = some (some (p, .recordAndSample))) (hFirst : id ∉ l.ended)
    (hOpen : p ∉ l.shut) : l.ending? t a = some ⟨id, p, time, t.dataOf? id⟩ := by
  simp [Ledger.ending?, hEnds, hBorn, hFirst, hOpen]

theorem ended_noteAll {l : Ledger} {t : Telemetry} {id : Nat} {acts : List Act}
    (hLt : id < t.spans.length)
    (h : id ∈ l.ended ∨ ∃ a ∈ acts, a.ended? = some id) :
    id ∈ (l.noteAll t acts).ended := by
  induction acts generalizing l t with
  | nil =>
    rcases h with hOld | ⟨a, ha, -⟩
    · exact hOld
    · cases ha
  | cons a rest ih =>
    have hLength := length_spans_after t a
    refine ih (by omega) ?_
    rw [mem_ended_note]
    rcases h with hOld | ⟨b, hb, hEnds⟩
    · exact Or.inl (Or.inl hOld)
    · rcases List.mem_cons.1 hb with rfl | hRest
      · exact Or.inl (Or.inr ⟨hEnds, hLt⟩)
      · exact Or.inr ⟨b, hRest, hEnds⟩

/-- The ledger of a run that leads to a state. The endings are those of spans that were to be
exported, one for each of them that ended in time, and exporters have received just these. -/
structure Accounts (l : Ledger) (t : Telemetry) : Prop where
  agrees : Agrees l t
  sampled : ∀ x ∈ l.endings, l.born[x.span]? = some (some (x.provider, .recordAndSample))
  ended : ∀ x ∈ l.endings, x.span ∈ l.ended
  nodup : (l.endings.map Ending.span).Nodup
  complete : ∀ id p, l.born[id]? = some (some (p, .recordAndSample)) → id ∈ l.ended →
    p ∈ l.shut ∨ ∃ x ∈ l.endings, x.span = id
  exports : ∀ e, (t.exportsOf e).map some = l.endings.flatMap fun x => x.receipts t e
  shut_nodup : l.shut.Nodup
  shutdowns : ∀ e, (t.callsOf e).filter isShutdown = l.shut.flatMap fun p =>
    List.replicate ((t.exportersOf p).count e) .shutdown

theorem accounts_empty : Accounts .empty empty where
  agrees := agrees_empty
  sampled x hx := by simp [Ledger.empty] at hx
  ended x hx := by simp [Ledger.empty] at hx
  nodup := List.nodup_nil
  complete id p hBorn := by simp [Ledger.empty] at hBorn
  exports e := rfl
  shut_nodup := List.nodup_nil
  shutdowns e := rfl

theorem Accounts.note {l : Ledger} {t : Telemetry} (h : Accounts l t) (a : Act) :
    Accounts (l.note t a) (t.after a) where
  agrees := h.agrees.note a
  sampled x hx := by
    have hBorn : l.born[x.span]? = some (some (x.provider, .recordAndSample)) := by
      rcases List.mem_append.1 hx with hOld | hNew
      · exact h.sampled x hOld
      · obtain ⟨-, hBorn, -⟩ := ending?_eq_some (Option.mem_toList.1 hNew)
        exact hBorn
    obtain ⟨hLt, -⟩ := List.getElem?_eq_some_iff.1 hBorn
    show (l.born ++ _)[x.span]? = _
    rw [List.getElem?_append_left hLt, hBorn]
  ended x hx := by
    rw [mem_ended_note]
    rcases List.mem_append.1 hx with hOld | hNew
    · exact Or.inl (h.ended x hOld)
    · obtain ⟨hEnds, hBorn, -⟩ := ending?_eq_some (Option.mem_toList.1 hNew)
      obtain ⟨hLt, -⟩ := List.getElem?_eq_some_iff.1 hBorn
      have hLength := h.agrees.length_born
      exact Or.inr ⟨by rw [← Act.map_fst_ends? t.now, hEnds]; rfl, by omega⟩
  nodup := by
    show ((l.endings ++ (l.ending? t a).toList).map Ending.span).Nodup
    cases hNew : l.ending? t a with
    | none => simpa using h.nodup
    | some x =>
      obtain ⟨-, -, hFirst, -⟩ := ending?_eq_some hNew
      rw [List.map_append, List.nodup_append]
      refine ⟨h.nodup, by simp, ?_⟩
      intro id hOld other hOther hSame
      obtain ⟨y, hy, rfl⟩ := List.mem_map.1 hOld
      have hSpan : y.span = x.span := by simpa [hSame] using hOther
      exact hFirst (hSpan ▸ h.ended y hy)
  complete id p hBorn hEnded := by
    have hLength := h.agrees.length_born
    have hLt : id < l.born.length := by
      rcases mem_ended_note.1 hEnded with hOld | ⟨-, hLt⟩
      · have hLt := h.agrees.ended_lt id hOld
        omega
      · omega
    have hBorn : l.born[id]? = some (some (p, .recordAndSample)) := by
      rw [← hBorn]
      exact (List.getElem?_append_left hLt).symm
    by_cases hOld : id ∈ l.ended
    · rcases h.complete id p hBorn hOld with hShut | ⟨x, hx, hSpan⟩
      · exact Or.inl (mem_shut_note.2 (Or.inl hShut))
      · exact Or.inr ⟨x, List.mem_append_left _ hx, hSpan⟩
    · by_cases hShut : p ∈ l.shut
      · exact Or.inl (mem_shut_note.2 (Or.inl hShut))
      · obtain ⟨hSpan, -⟩ := (mem_ended_note.1 hEnded).resolve_left hOld
        rw [← Act.map_fst_ends? t.now] at hSpan
        obtain ⟨⟨other, time⟩, hEnds, rfl⟩ := Option.map_eq_some_iff.1 hSpan
        have hNew := ending?_of_first (t := t) hEnds hBorn hOld hShut
        exact Or.inr ⟨_, List.mem_append_right _ (Option.mem_toList.2 hNew), rfl⟩
  exports e := by
    have hSame : ∀ x : Ending, x.provider < t.providers.length →
        x.receipts (t.after a) e = x.receipts t e := by
      intro x hx
      unfold Ending.receipts
      rw [exportersOf_after hx]
    have hThere : ∀ x ∈ l.endings ++ (l.ending? t a).toList, x.provider < t.providers.length := by
      intro x hx
      rcases List.mem_append.1 hx with hOld | hNew
      · exact h.agrees.provider_lt _ _ (List.mem_of_getElem? (h.sampled x hOld))
      · obtain ⟨-, hBorn, -⟩ := ending?_eq_some (Option.mem_toList.1 hNew)
        exact h.agrees.provider_lt _ _ (List.mem_of_getElem? hBorn)
    show _ = (l.endings ++ (l.ending? t a).toList).flatMap fun x => x.receipts (t.after a) e
    rw [exportsOf_after h.agrees.sound, List.map_append, h.exports, receipts_eq_ending? h.agrees,
      ← List.flatMap_append, List.flatMap_def, List.flatMap_def]
    exact congrArg List.flatten (List.map_congr_left fun x hx => (hSame x (hThere x hx)).symm)
  shut_nodup := by
    show (l.shut ++ Option.toList _).Nodup
    rw [List.nodup_append]
    refine ⟨h.shut_nodup, ?_, ?_⟩
    · cases Option.filter _ a.closes? <;> simp
    · intro p hOld other hNew hSame
      obtain ⟨-, hFirst⟩ := Option.filter_eq_some_iff.1 (Option.mem_toList.1 hNew)
      simp only [decide_eq_true_eq] at hFirst
      exact hFirst.2 (hSame ▸ hOld)
  shutdowns e := by
    have hSame : ∀ p < t.providers.length,
        List.replicate (((t.after a).exportersOf p).count e) ExporterCall.shutdown =
          List.replicate ((t.exportersOf p).count e) .shutdown := by
      intro p hp
      rw [exportersOf_after hp]
    rw [callsOf_after h.agrees.sound, List.filter_append, h.shutdowns,
      filter_told_shutdown h.agrees, ← List.flatMap_append, List.flatMap_def, List.flatMap_def]
    refine congrArg List.flatten (List.map_congr_left fun p hp => (hSame p ?_).symm)
    rcases List.mem_append.1 hp with hOld | hNew
    · exact h.agrees.shut_lt p hOld
    · obtain ⟨-, hFirst⟩ := Option.filter_eq_some_iff.1 (Option.mem_toList.1 hNew)
      simp only [decide_eq_true_eq] at hFirst
      exact hFirst.1

/-- The ledger of a run accounts for the state that the run leads to. -/
theorem Accounts.noteAll {l : Ledger} {t : Telemetry} (h : Accounts l t) (acts : List Act) :
    Accounts (l.noteAll t acts) (t.afterAll acts) := by
  induction acts generalizing l t with
  | nil => exact h
  | cons a rest ih => exact ih (h.note a)

/-- The ledger of a run agrees with the state that the run leads to. -/
theorem accounts_ledger (acts : List Act) : Accounts (ledger acts) (empty.afterAll acts) :=
  accounts_empty.noteAll acts

end SpanFlow.Telemetry
