import SpanFlow.Proofs.Recording.Acts

/-!
# What acts call exporters with

Every act calls exporters in a way that the state before it decides, `told`: an act that ends a span
hands on what that span has recorded, and flushing and shutting down reach every exporter of a
provider. What the exporters answer has no part in it.

## Main results

* `callsOf_after`: an act calls exporters as `told` says.
* `sound_afterAll`: what `callsOf_after` asks for holds after any acts.
-/

namespace SpanFlow.Telemetry

/-! ## Calls -/

/-- What ends with a span that ends now: its provider, and what that one exports. Nothing is
exported of a span without a record, of one that was not sampled, and by a provider shut down. -/
def delivery? (t : Telemetry) (id : Nat) (time : Timestamp) : Option (Nat × SpanData) := do
  let s ← t.spans[id]?
  let data ← s.data?
  let provider ← s.provider?
  if t.isClosed provider || !s.context.isSampled then none
  else some (provider, { data with finish := time })

/-- The calls by which an exporter receives a delivery: one for each time that it is registered
with the provider. -/
def receipts (t : Telemetry) (exporter : Nat) : Option (Nat × SpanData) → List ExporterCall
  | none => []
  | some (provider, data) =>
    List.replicate ((t.exportersOf provider).count exporter) (.export [data])

/-- What an act calls an exporter with. -/
def told (t : Telemetry) (a : Act) (exporter : Nat) : List ExporterCall :=
  match a with
  | .flush p =>
    if t.isClosed p then [] else List.replicate ((t.exportersOf p).count exporter) .flush
  | .shutdown p | .releaseProvider p =>
    if t.isClosed p then [] else List.replicate ((t.exportersOf p).count exporter) .shutdown
  | a => t.receipts exporter ((a.ends? t.now).bind fun x => t.delivery? x.1 x.2)

theorem delivery?_eq_none {t : Telemetry} {id : Nat} (h : t.dataOf? id = none)
    (time : Timestamp) : t.delivery? id time = none := by
  unfold dataOf? at h
  unfold delivery?
  cases hSpan : t.spans[id]? with
  | none => rfl
  | some s =>
    have hData : s.data? = none := by simpa [hSpan] using h
    simp [hData]

/-- Only a provider that is not shut down exports. -/
theorem isClosed_of_delivery? {t : Telemetry} {id : Nat} {time : Timestamp} {d : Nat × SpanData}
    (h : t.delivery? id time = some d) : t.isClosed d.1 = false := by
  obtain ⟨s, -, h⟩ := Option.bind_eq_some_iff.1 h
  obtain ⟨data, -, h⟩ := Option.bind_eq_some_iff.1 h
  obtain ⟨p, -, h⟩ := Option.bind_eq_some_iff.1 h
  split at h
  · cases h
  · rename_i hOpen
    cases h
    simp only [Bool.or_eq_true, not_or] at hOpen
    simpa using hOpen.1

theorem tells_finish (t : Telemetry) (id : Nat) (time : Timestamp) :
    Tells t (t.finish id time) fun e => t.receipts e (t.delivery? id time) := by
  cases hData : t.dataOf? id with
  | none =>
    simp only [delivery?_eq_none hData, finish_eq_self hData]
    exact tells_nothing rfl
  | some data =>
    obtain ⟨s, hSpan, hData⟩ := Option.bind_eq_some_iff.1 hData
    obtain ⟨p, hProvider⟩ := Span.provider?_of_data? hData
    have hDelivery : t.delivery? id time =
        if t.isClosed p || !s.context.isSampled then none
        else some (p, { data with finish := time }) := by
      simp [delivery?, hSpan, hData, hProvider]
    simp only [hDelivery, finish_eq hSpan hData hProvider]
    split
    · exact tells_nothing rfl
    · exact (tells_exportTo _ _ (t.modifySpan id _)).from rfl

/-- Only ending a span reaches the exporters. -/
theorem exporters_call (t : Telemetry) (id : Nat) (c : SpanCall) :
    (t.call id c).1.exporters =
      match c.ends? with
      | some time => (t.finish id time).exporters
      | none => t.exporters := by
  unfold call
  cases hSpan : t.spans[id]? with
  | none => cases c <;> simp [SpanCall.ends?, finish, hSpan]
  | some s =>
    rcases hKind : s.kind with _ | ⟨journal, finished⟩ | ⟨_ | r, tracer, limits⟩
    · cases c <;> simp [hKind, SpanCall.ends?, finish, hSpan]
    · cases c with
      | rename name =>
        simp only [hKind, SpanCall.ends?]
        split <;> rfl
      | _ => simp [hKind, SpanCall.ends?, finish, hSpan, note, modifySpan]
    · cases c <;> simp [hKind, SpanCall.ends?]
    · cases c <;> simp [hKind, SpanCall.ends?, modifySpan]

theorem tells_call (t : Telemetry) (id : Nat) (c : SpanCall) :
    Tells t (t.call id c).1 fun e => t.receipts e (c.ends?.bind (t.delivery? id)) := by
  have hExporters := exporters_call t id c
  cases hEnds : c.ends? with
  | none =>
    rw [hEnds] at hExporters
    exact tells_nothing hExporters
  | some time =>
    rw [hEnds] at hExporters
    exact (tells_finish t id time).congr hExporters

theorem exporters_callActive (t : Telemetry) (active : ActiveSpan) (c : SpanCall) :
    (t.callActive active c).1.exporters =
      match active.span? with
      | none => t.exporters
      | some id =>
        if t.spans[id]?.any Span.poisoned then t.exporters else (t.call id c).1.exporters := by
  unfold callActive
  cases active.span? with
  | none => rfl
  | some id =>
    dsimp only
    cases hSpan : t.spans[id]? with
    | none => simp [call, hSpan]
    | some s =>
      by_cases hPoisoned : s.poisoned = true
      · simp [hPoisoned, report]
      · simp only [hPoisoned, Option.any_some]
        rcases hCall : t.call id c with ⟨t', _ | message⟩ <;> rfl

theorem tells_callActive {t : Telemetry}
    (hFailed : ∀ s ∈ t.spans, s.poisoned = true → s.data? = none) (active : ActiveSpan)
    (c : SpanCall) :
    Tells t (t.callActive active c).1 fun e =>
      t.receipts e (active.span?.bind fun id => c.ends?.bind (t.delivery? id)) := by
  have hExporters := exporters_callActive t active c
  cases hActive : active.span? with
  | none =>
    rw [hActive] at hExporters
    exact tells_nothing hExporters
  | some id =>
    rw [hActive] at hExporters
    simp only [Option.bind_some]
    by_cases hPoisoned : t.spans[id]?.any Span.poisoned = true
    · have hData : t.dataOf? id = none := by
        unfold dataOf?
        cases hSpan : t.spans[id]? with
        | none => rfl
        | some s => exact hFailed s (List.mem_of_getElem? hSpan) (by simpa [hSpan] using hPoisoned)
      have hNone : c.ends?.bind (t.delivery? id) = none := by
        cases c.ends? with
        | none => rfl
        | some time => exact delivery?_eq_none hData time
      simp only [hNone]
      exact tells_nothing (by simpa [hPoisoned] using hExporters)
    · exact (tells_call t id c).congr (by simpa [hPoisoned] using hExporters)

theorem tells_flush (t : Telemetry) (p : Nat) : Tells t (t.flush p).1 (t.told (.flush p)) := by
  rw [fst_flush]
  unfold told
  by_cases hClosed : t.isClosed p = true
  · simp only [hClosed, if_true]
    exact tells_nothing rfl
  · simp only [if_neg hClosed]
    exact tells_flushEach (t.exportersOf p) t

theorem tells_close (t : Telemetry) (p : Nat) :
    Tells t (t.close p).1 fun e => List.replicate ((t.exportersOf p).count e) .shutdown :=
  (tells_shutdownEach _ _ _).from rfl

theorem tells_shutdown (t : Telemetry) (p : Nat) :
    Tells t (t.shutdown p).1 (t.told (.shutdown p)) := by
  rw [fst_shutdown]
  unfold told
  by_cases hClosed : t.isClosed p = true
  · simp only [hClosed, if_true]
    exact tells_nothing rfl
  · simp only [if_neg hClosed]
    exact tells_close t p

theorem tells_releaseProvider (t : Telemetry) (p : Nat) :
    Tells t (t.releaseProvider p) (t.told (.releaseProvider p)) := by
  unfold releaseProvider told
  by_cases hClosed : t.isClosed p = true
  · simp only [hClosed, if_true]
    exact tells_nothing rfl
  · simp only [hClosed]
    exact (tells_close t p).congr rfl

theorem exporters_start (t : Telemetry) (tracer : Tracer) (name : String) (cx : Context) :
    (t.start tracer name cx).1.exporters = t.exporters := by
  unfold start
  split
  · rfl
  · split <;> rfl

theorem exporters_makeProvider (t : Telemetry) (plan : ProviderPlan) (env : Surroundings) :
    (t.makeProvider plan env).exporters = t.exporters := by
  unfold makeProvider addPlanned
  split
  · dsimp only
    rw [foldl_report]
    rfl
  · rfl

/-! ## What holds throughout -/

/-- Providers have exporters that are there, and spans that failed half-way have no record. -/
structure Sound (t : Telemetry) : Prop where
  exporters_lt : ∀ p ∈ t.providers, ∀ e ∈ p.exporters, e < t.exporters.length
  data?_of_poisoned : ∀ s ∈ t.spans, s.poisoned = true → s.data? = none

/-- An act that makes no exporter calls those that are there as `told` says. -/
theorem tells_after {t : Telemetry} (h : Sound t) {a : Act} (hOld : ∀ kind, a ≠ .exporter kind) :
    Tells t (t.after a) (t.told a) := by
  cases a with
  | exporter kind => exact absurd rfl (hOld kind)
  | provider plan env => exact tells_nothing (exporters_makeProvider t plan env)
  | start tracer name cx => exact tells_nothing (exporters_start t tracer name cx)
  | call id c =>
    have hTold : t.told (.call id c) = fun e => t.receipts e (c.ends?.bind (t.delivery? id)) := by
      funext e
      show t.receipts e ((c.ends?.map _).bind _) = _
      cases c.ends? <;> rfl
    rw [hTold]
    exact tells_call t id c
  | callActive active c =>
    have hTold : t.told (.callActive active c) = fun e =>
        t.receipts e (active.span?.bind fun id => c.ends?.bind (t.delivery? id)) := by
      funext e
      show t.receipts e ((active.span?.bind fun id => c.ends?.map _).bind _) = _
      cases active.span? <;> cases c.ends? <;> rfl
    rw [hTold]
    exact tells_callActive h.data?_of_poisoned active c
  | releaseSpan id => exact (tells_finish t id t.now).congr rfl
  | flush p => exact tells_flush t p
  | shutdown p => exact tells_shutdown t p
  | releaseProvider p => exact tells_releaseProvider t p
  | clear id =>
    refine ⟨List.length_modify _ _ _, fun e he => ?_⟩
    show _ = t.callsOf e ++ []
    rw [List.append_nil]
    unfold callsOf after
    dsimp only
    rw [List.getElem?_modify]
    by_cases hSame : id = e
    · cases t.exporters[e]? <;> simp [hSame, Exporter.cleared]
    · simp [hSame]
  | inert sc | journaled sc | report d | takeLog | readJournal journal | elapse now =>
    exact tells_nothing rfl

theorem length_exporters_after {t : Telemetry} (h : Sound t) (a : Act) :
    t.exporters.length ≤ (t.after a).exporters.length := by
  by_cases hNew : ∃ kind, a = .exporter kind
  · obtain ⟨kind, rfl⟩ := hNew
    simp [after, addExporter]
  · have hOld : ∀ kind, a ≠ .exporter kind := fun kind hEq => hNew ⟨kind, hEq⟩
    exact Nat.le_of_eq (tells_after h hOld).length_eq.symm

theorem exportersOf_lt {t : Telemetry} (h : Sound t) {p e : Nat} (he : e ∈ t.exportersOf p) :
    e < t.exporters.length := by
  unfold exportersOf at he
  split at he
  · rename_i q hq
    exact h.exporters_lt q (List.mem_of_getElem? hq) e he
  · cases he

/-- An exporter that is not there is called by nothing. -/
theorem told_eq_nil {t : Telemetry} (h : Sound t) (a : Act) {e : Nat}
    (he : t.exporters.length ≤ e) : t.told a e = [] := by
  have hCount : ∀ p, (t.exportersOf p).count e = 0 := by
    intro p
    refine List.count_eq_zero.2 fun hMem => ?_
    have hLt := exportersOf_lt h hMem
    omega
  have hReceipts : ∀ d?, t.receipts e d? = [] := by
    intro d?
    cases d? <;> simp [receipts, hCount]
  cases a <;> simp [told, hCount, hReceipts]

/-- An act calls exporters as `told` says. -/
theorem callsOf_after {t : Telemetry} (h : Sound t) (a : Act) (e : Nat) :
    (t.after a).callsOf e = t.callsOf e ++ t.told a e := by
  by_cases hNew : ∃ kind, a = .exporter kind
  · obtain ⟨kind, rfl⟩ := hNew
    show _ = t.callsOf e ++ []
    rw [List.append_nil]
    unfold callsOf after addExporter
    dsimp only
    rcases Nat.lt_trichotomy e t.exporters.length with hLt | hEq | hGt
    · rw [List.getElem?_append_left hLt]
    · subst hEq
      simp [Exporter.fresh]
    · rw [List.getElem?_eq_none (by simp; omega), List.getElem?_eq_none (by omega)]
  · have hTells := tells_after h (a := a) fun kind hEq => hNew ⟨kind, hEq⟩
    by_cases he : e < t.exporters.length
    · exact hTells.callsOf_eq e he
    · have hLength := hTells.length_eq
      rw [told_eq_nil h a (by omega), List.append_nil]
      unfold callsOf
      rw [List.getElem?_eq_none (by omega), List.getElem?_eq_none (by omega)]

/-! ## After any acts -/

theorem sound_empty : Sound empty := ⟨by simp [empty], by simp [empty]⟩

theorem Sound.after {t : Telemetry} (h : Sound t) (a : Act) : Sound (t.after a) := by
  constructor
  · intro p' hp' e he
    have hLength := length_exporters_after h a
    obtain ⟨id, hGet⟩ := List.getElem?_of_mem hp'
    rcases provider_after_cases hGet with ⟨p, hOld, rfl⟩ | ⟨-, hNew⟩
    · rw [exporters_onProvider] at he
      have hLt := h.exporters_lt p (List.mem_of_getElem? hOld) e he
      omega
    · cases a with
      | provider plan env =>
        simp only [newProvider?, Option.ite_none_right_eq_some, Option.some.injEq] at hNew
        obtain ⟨hThere, rfl⟩ := hNew
        have hLt : e < t.exporters.length := by simpa using List.all_eq_true.1 hThere e he
        omega
      | _ => simp [newProvider?] at hNew
  · intro s' hs' hPoisoned
    obtain ⟨id, hGet⟩ := List.getElem?_of_mem hs'
    rcases span_after_cases hGet with ⟨s, hOld, rfl⟩ | ⟨-, hNew⟩
    · refine data?_onSpan a id ?_
      rcases poisoned_onSpan hPoisoned with hFailed | hForeign
      · exact h.data?_of_poisoned s (List.mem_of_getElem? hOld) hFailed
      · cases hData : s.data? with
        | none => rfl
        | some data =>
          obtain ⟨p, hProvider⟩ := Span.provider?_of_data? hData
          rw [hForeign] at hProvider
          cases hProvider
    · rw [(newSpan?_eq_some hNew).1] at hPoisoned
      cases hPoisoned

/-- What `callsOf_after` asks for holds after any acts. -/
theorem sound_afterAll {t : Telemetry} (h : Sound t) (acts : List Act) :
    Sound (t.afterAll acts) := by
  induction acts generalizing t with
  | nil => exact h
  | cons a rest ih => exact ih (h.after a)

theorem length_exporters_afterAll {t : Telemetry} (h : Sound t) (acts : List Act) :
    t.exporters.length ≤ (t.afterAll acts).exporters.length := by
  induction acts generalizing t with
  | nil => exact Nat.le_refl _
  | cons a rest ih => exact Nat.le_trans (length_exporters_after h a) (ih (h.after a))

end SpanFlow.Telemetry
