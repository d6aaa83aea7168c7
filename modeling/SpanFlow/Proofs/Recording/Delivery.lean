import SpanFlow.Proofs.Recording.Ledger

/-!
# Spans are exported once

Whatever happens to spans and providers, in any order, exporters receive every span that was to be
recorded and sampled once, at its first end, as it was just before, unless its provider was shut
down by then. From its first end on, a span is out of play: nothing that is done to it is seen in
what exporters receive, then or later.

The last point needs an argument of its own, because releasing a span does leave a trace: the span
is marked as released. No act looks at the mark, so it can be put off to the end of a run.

## Main results

* `mark_afterAll`: a mark is seen by nothing that happens later.
* `exported_once`: what exporters have received after any acts.
-/

namespace SpanFlow.Telemetry

/-! ## Marking a span as released -/

/-- Marks a span as released, and does nothing else. -/
def mark (id : Nat) (t : Telemetry) : Telemetry :=
  t.modifySpan id fun s => { s with released := true }

variable (id : Nat) (t : Telemetry)

theorem mark_callExporter (e : Nat) (c : ExporterCall) :
    (t.mark id).callExporter e c = ((t.callExporter e c).1.mark id, (t.callExporter e c).2) := by
  unfold callExporter mark modifySpan
  dsimp only
  split <;> rfl

private theorem foldl_commutes {f : Telemetry → Nat → Telemetry} {g : Telemetry → Telemetry}
    (h : ∀ t e, f (g t) e = g (f t e)) (ids : List Nat) (t : Telemetry) :
    ids.foldl f (g t) = g (ids.foldl f t) := by
  induction ids generalizing t with
  | nil => rfl
  | cons e rest ih => rw [List.foldl_cons, h, ih, List.foldl_cons]

theorem mark_tell (c : ExporterCall) (onFailure : ExportError → Diagnostic) (e : Nat) :
    tell c onFailure (t.mark id) e = (tell c onFailure t e).mark id := by
  unfold tell
  rw [mark_callExporter]
  rcases t.callExporter e c with ⟨t', _ | error⟩ <;> rfl

theorem mark_exportTo (data : SpanData) (ids : List Nat) :
    exportTo data ids (t.mark id) = (exportTo data ids t).mark id := by
  rw [exportTo_eq_foldl, exportTo_eq_foldl]
  exact foldl_commutes (fun t e => mark_tell id t _ _ e) ids t

theorem mark_shutdownEach (last? : Option ExportError) (ids : List Nat) :
    (shutdownEach last? ids (t.mark id)).1 = (shutdownEach last? ids t).1.mark id := by
  rw [shutdownEach_eq_foldl, shutdownEach_eq_foldl]
  exact foldl_commutes (fun t e => mark_tell id t _ _ e) ids t

theorem mark_flushEach (ids : List Nat) :
    (flushEach ids (t.mark id)).1 = (flushEach ids t).1.mark id := by
  rw [flushEach_eq_foldl, flushEach_eq_foldl]
  exact foldl_commutes (fun t e => by rw [mark_callExporter]) ids t

theorem mark_close (p : Nat) : ((t.mark id).close p).1 = (t.close p).1.mark id :=
  mark_shutdownEach id (t.modifyProvider p _) none _

theorem getElem?_mark (i : Nat) : (t.mark id).spans[i]? =
    t.spans[i]?.map fun s => if id = i then { s with released := true } else s := by
  show (t.spans.modify id _)[i]? = _
  rw [List.getElem?_modify]
  by_cases h : id = i <;> simp [h]

theorem mark_modifySpan (i : Nat) {f : Span → Span}
    (hf : ∀ s : Span, f { s with released := true } = { f s with released := true }) :
    (t.mark id).modifySpan i f = (t.modifySpan i f).mark id := by
  unfold mark modifySpan
  dsimp only
  congr 1
  by_cases h : id = i
  · subst h
    rw [List.modify_modify_eq, List.modify_modify_eq]
    congr 1
    funext s
    exact hf s
  · exact List.modify_modify_ne _ _ _ h

/-- Marking leaves of a span all that calls look at. -/
theorem span_mark {i : Nat} {s : Span} (h : t.spans[i]? = some s) :
    ∃ s', (t.mark id).spans[i]? = some s' ∧ s'.kind = s.kind ∧ s'.context = s.context ∧
      s'.poisoned = s.poisoned := by
  refine ⟨if id = i then { s with released := true } else s, by rw [getElem?_mark, h]; rfl, ?_⟩
  split <;> exact ⟨rfl, rfl, rfl⟩

theorem span_mark_none {i : Nat} (h : t.spans[i]? = none) : (t.mark id).spans[i]? = none := by
  rw [getElem?_mark, h]
  rfl

theorem dataOf?_mark (i : Nat) : (t.mark id).dataOf? i = t.dataOf? i := by
  unfold dataOf?
  rw [getElem?_mark]
  cases t.spans[i]? with
  | none => rfl
  | some s =>
    by_cases hSame : id = i
    · simp only [hSame, Option.map_some, if_true]
      rfl
    · simp [hSame]

theorem mark_finish (i : Nat) (time : Timestamp) :
    (t.mark id).finish i time = (t.finish i time).mark id := by
  cases hData : t.dataOf? i with
  | none =>
    rw [finish_eq_self hData, finish_eq_self (by rw [dataOf?_mark, hData])]
  | some data =>
    obtain ⟨s, hSpan, hData⟩ := Option.bind_eq_some_iff.1 hData
    obtain ⟨p, hProvider⟩ := Span.provider?_of_data? hData
    obtain ⟨s', hSpan', hKind, hContext, -⟩ := span_mark id t hSpan
    have hData' : s'.data? = some data := by
      rw [← hData]
      simp only [Span.data?, hKind, hContext]
    have hProvider' : s'.provider? = some p := by
      rw [← hProvider]
      simp only [Span.provider?, hKind]
    have hModify : (t.mark id).modifySpan i Span.ended = (t.modifySpan i Span.ended).mark id :=
      mark_modifySpan id t i fun s => by
        rcases s with ⟨context, kind, poisoned, released⟩
        cases kind <;> rfl
    rw [finish_eq hSpan hData hProvider, finish_eq hSpan' hData' hProvider', hContext, hModify,
      mark_exportTo, apply_ite (mark id)]
    rfl

theorem mark_call (i : Nat) (c : SpanCall) :
    (t.mark id).call i c = ((t.call i c).1.mark id, (t.call i c).2) := by
  unfold call
  cases hSpan : t.spans[i]? with
  | none => simp only [span_mark_none id t hSpan]
  | some s =>
    obtain ⟨s', hSpan', hKind', -⟩ := span_mark id t hSpan
    simp only [hSpan', hKind']
    rcases s.kind with _ | ⟨journal, finished⟩ | ⟨_ | r, tracer, limits⟩
    · rfl
    · cases c with
      | rename name =>
        dsimp only
        split <;> rfl
      | finish time =>
        dsimp only
        rw [mark_modifySpan id t i (fun s => rfl)]
        rfl
      | _ => rfl
    · cases c with
      | finish time =>
        dsimp only
        rw [mark_finish]
      | _ => rfl
    · cases c with
      | finish time =>
        dsimp only
        rw [mark_finish]
      | _ =>
        dsimp only
        rw [mark_modifySpan id t i (fun s => rfl)]

theorem mark_callActive (active : ActiveSpan) (c : SpanCall) :
    ((t.mark id).callActive active c).1 = (t.callActive active c).1.mark id := by
  unfold callActive
  cases active.span? with
  | none => rfl
  | some i =>
    dsimp only
    cases hSpan : t.spans[i]? with
    | none => simp only [span_mark_none id t hSpan]
    | some s =>
      obtain ⟨s', hSpan', -, -, hPoisoned'⟩ := span_mark id t hSpan
      simp only [hSpan', hPoisoned']
      split
      · rfl
      · rw [mark_call]
        rcases t.call i c with ⟨t', _ | message⟩
        · rfl
        · exact mark_modifySpan id t' i fun s => rfl

theorem mark_addSpan {id : Nat} {t : Telemetry} (h : id < t.spans.length) (s : Span) :
    ((t.mark id).addSpan s).1 = (t.addSpan s).1.mark id := by
  unfold mark addSpan modifySpan
  dsimp only
  congr 1
  apply List.ext_getElem?
  intro j
  rw [List.getElem?_modify]
  by_cases hj : j < t.spans.length
  · rw [List.getElem?_append_left (by simpa using hj), List.getElem?_append_left hj,
      List.getElem?_modify]
  · have hNe : id ≠ j := by omega
    rw [List.getElem?_append_right (by simpa using hj), List.getElem?_append_right (by omega)]
    simp [hNe]

theorem mark_after {id : Nat} {t : Telemetry} (h : id < t.spans.length) (a : Act) :
    (t.mark id).after a = (t.after a).mark id := by
  cases a with
  | inert sc => exact mark_addSpan h _
  | journaled sc => exact mark_addSpan (t := t.addJournal.1) h _
  | start tracer name cx =>
    show ((t.mark id).start tracer name cx).1 = (t.start tracer name cx).1.mark id
    have hSame : (t.mark id).providers = t.providers := rfl
    unfold start
    rw [hSame]
    cases t.providers[tracer.provider]? with
    | none => exact mark_addSpan h _
    | some p =>
      by_cases hClosed : p.closed = true
      · simp only [hClosed, if_true]
        exact mark_addSpan h _
      · simp only [hClosed]
        exact mark_addSpan (t := t.modifyProvider tracer.provider _) h _
  | call i c => exact congrArg Prod.fst (mark_call id t i c)
  | callActive active c => exact mark_callActive id t active c
  | releaseSpan i =>
    show ((t.mark id).finish i t.now).modifySpan i _ = ((t.finish i t.now).modifySpan i _).mark id
    rw [mark_finish]
    exact mark_modifySpan id _ i fun s => rfl
  | flush p =>
    show ((t.mark id).flush p).1 = (t.flush p).1.mark id
    rw [fst_flush, fst_flush, mark_flushEach]
    show (if t.isClosed p then _ else _) = _
    split <;> rfl
  | shutdown p =>
    show ((t.mark id).shutdown p).1 = (t.shutdown p).1.mark id
    rw [fst_shutdown, fst_shutdown, mark_close]
    show (if t.isClosed p then _ else _) = _
    split <;> rfl
  | releaseProvider p =>
    show (t.mark id).releaseProvider p = (t.releaseProvider p).mark id
    unfold releaseProvider
    show modifyProvider (if t.isClosed p then _ else _) _ _ = _
    rw [mark_close]
    split <;> rfl
  | provider plan env =>
    show (t.mark id).makeProvider plan env = (t.makeProvider plan env).mark id
    unfold makeProvider addPlanned
    dsimp only
    rw [foldl_report, foldl_report]
    show (if plan.exporters.all (· < t.exporters.length) then _ else _) = _
    split <;> rfl
  | exporter kind | clear i | report d | takeLog | readJournal journal | elapse now => rfl

/-- A mark on a span is seen by nothing that happens later. -/
theorem mark_afterAll {id : Nat} {t : Telemetry} (h : id < t.spans.length) (acts : List Act) :
    (t.mark id).afterAll acts = (t.afterAll acts).mark id := by
  induction acts generalizing t with
  | nil => rfl
  | cons a rest ih =>
    have hLength := length_spans_after t a
    rw [afterAll_cons, mark_after h, ih (by omega), afterAll_cons]

/-! ## Acts on a span that has ended -/

/-- The span that an act is on. -/
def Act.on? : Act → Option Nat
  | call id _ | releaseSpan id => some id
  | callActive active _ => active.span?
  | _ => none

/-- Nothing happens to a span of a provider that has ended, except that it may be marked. -/
theorem after_on_ended {t : Telemetry} {a : Act} {id p : Nat} {s : Span}
    (hSpan : t.spans[id]? = some s) (hProvider : s.provider? = some p)
    (hEnded : s.data? = none) (hFine : s.poisoned = false) (hOn : a.on? = some id) :
    t.after a = t ∨ t.after a = t.mark id := by
  have hData : t.dataOf? id = none := by rw [dataOf?, hSpan]; exact hEnded
  have hCall : ∀ c, t.call id c = (t, none) := by
    intro c
    unfold call
    rcases hKind : s.kind with _ | ⟨journal, finished⟩ | ⟨_ | r, tracer, limits⟩
    · simp [Span.provider?, hKind] at hProvider
    · simp [Span.provider?, hKind] at hProvider
    · cases c <;> simp only [hSpan, hKind]
      rw [finish_eq_self hData]
    · simp [Span.data?, hKind] at hEnded
  cases a with
  | call other c =>
    cases hOn
    exact Or.inl (congrArg Prod.fst (hCall c))
  | callActive active c =>
    have hActive : active.span? = some id := hOn
    left
    show (t.callActive active c).1 = t
    simp [callActive, hActive, hSpan, hFine, hCall]
  | releaseSpan other =>
    cases hOn
    right
    show (t.finish id t.now).modifySpan id _ = _
    rw [finish_eq_self hData]
    rfl
  | _ => cases hOn

/-- A span of a provider records as long as there is something to export of it. -/
theorem isRecording_of_provider? {s : Span} {p : Nat} (h : s.provider? = some p) :
    s.isRecording = s.data?.isSome := by
  unfold Span.provider? at h
  unfold Span.isRecording Span.data?
  rcases hKind : s.kind with _ | ⟨journal, finished⟩ | ⟨_ | r, tracer, limits⟩ <;>
    simp_all

/-! ## Exactly once -/

/-- What exporters have received, told from a ledger, and what is left to be received. -/
structure ExportedOnce (l : Ledger) (t : Telemetry) : Prop where
  /-- An exporter has received one call for every ending, in their order, for each time that it is
  registered, and nothing else. -/
  exports : ∀ e, (t.exportsOf e).map some = l.endings.flatMap fun x => x.receipts t e
  /-- No span has two endings. -/
  once : (l.endings.map Ending.span).Nodup
  /-- Only spans that were to be recorded and sampled are exported. -/
  sampled : ∀ x ∈ l.endings, l.born[x.span]? = some (some (x.provider, .recordAndSample))
  /-- Such a span has an ending once it was ended, unless its provider is shut down. -/
  complete : ∀ id p, l.born[id]? = some (some (p, .recordAndSample)) → id ∈ l.ended →
    p ∈ l.shut ∨ ∃ x ∈ l.endings, x.span = id
  /-- A span that was ended has nothing to export and does not record. No act on it makes a
  difference to what any exporter has received, or receives by any later acts. -/
  frozen : ∀ id p d, l.born[id]? = some (some (p, d)) → id ∈ l.ended →
    t.dataOf? id = none ∧ t.isRecording id = false ∧
      ∀ a, a.on? = some id → ∀ rest e,
        ((t.after a).afterAll rest).exportsOf e = (t.afterAll rest).exportsOf e

/-- **Exactly once.** After any acts in any order, every exporter has received each span that was
to be recorded and sampled and that ended before its provider was shut down: once, in the order of
first ends, as the span was just before with the time of that end. What is done to a span after its
first end is without effect. -/
theorem exported_once (acts : List Act) :
    ExportedOnce (ledger acts) (empty.afterAll acts) where
  exports := (accounts_ledger acts).exports
  once := (accounts_ledger acts).nodup
  sampled := (accounts_ledger acts).sampled
  complete := (accounts_ledger acts).complete
  frozen id p d hBorn hEnded := by
    have hAgrees := (accounts_ledger acts).agrees
    obtain ⟨s, hSpan, hProvider, hFine, -, hData⟩ := hAgrees.span_of_born hBorn
    have hNone : s.data? = none := by
      cases hs : s.data? with
      | none => rfl
      | some data => exact absurd hEnded (hData.1 (by rw [hs]; rfl)).2
    refine ⟨by rw [dataOf?, hSpan]; exact hNone, ?_, fun a hOn rest e => ?_⟩
    · unfold isRecording
      rw [hSpan, Option.any_some, isRecording_of_provider? hProvider, hNone]
      rfl
    · rcases after_on_ended hSpan hProvider hNone hFine hOn with hSame | hMark
      · rw [hSame]
      · obtain ⟨hLt, -⟩ := List.getElem?_eq_some_iff.1 hSpan
        rw [hMark, mark_afterAll hLt]
        rfl

-- A span is handed on with the time of its release, which is not that of its start.
example :
    let acts : List Act := [.exporter .memory,
      .provider ⟨[0], some .alwaysOn, some (.counting 1 1), some (.constant .standard)⟩ .plain,
      .elapse ⟨5⟩, .start ⟨"tracer", 0⟩ "span" .root, .elapse ⟨7⟩, .releaseSpan 0]
    ((empty.afterAll acts).exportsOf 0).flatMap (fun
        | .export spans => spans.map fun d => (d.start, d.finish)
        | _ => []) = [(⟨5⟩, ⟨7⟩)] := by
  decide +kernel

end SpanFlow.Telemetry
