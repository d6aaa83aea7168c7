import SpanFlow.Proofs.Recording.Exchanges

/-!
# What depends on the answers of exporters

Two runs of the same acts, with exporters that answer in different ways, are compared. They agree in
everything but what the exporters keep for themselves and what is reported: in the spans, the
providers and the journals, in what every call on a span comes back with, and in what each exporter
has received and in which order the exporters were called.

The argument is that no operation looks at an answer before it goes on, so that one act keeps two
such states alike; `Alike.after` is that step. What the answers do decide is known from the
exchanges themselves.

## Main results

* `Alike.after`: an act keeps two states alike that differ in the answers alone.
* `failures_isolated`: the answers of exporters decide what flushing and shutting down come back
  with and what is reported, and nothing else.
-/

namespace SpanFlow.Telemetry

/-! ## Journals and the clock -/

/-- What exporters and providers have nothing to do with: the journals, and what the clock shows. -/
def aside (t : Telemetry) : List (List JournalEntry) × Timestamp := (t.journals, t.now)

theorem aside_callExporter (t : Telemetry) (id : Nat) (c : ExporterCall) :
    (t.callExporter id c).1.aside = t.aside := by
  unfold callExporter
  split <;> rfl

theorem aside_tell (c : ExporterCall) (onFailure : ExportError → Diagnostic) (t : Telemetry)
    (id : Nat) : (tell c onFailure t id).aside = t.aside := by
  have hCall := aside_callExporter t id c
  unfold tell
  rcases hRan : t.callExporter id c with ⟨t', _ | e⟩ <;> rw [hRan] at hCall <;> exact hCall

theorem aside_exportTo (data : SpanData) (ids : List Nat) (t : Telemetry) :
    (exportTo data ids t).aside = t.aside := by
  rw [exportTo_eq_foldl]
  exact foldl_keeps _ aside (aside_tell _ _) ids t

theorem aside_finish (t : Telemetry) (id : Nat) (time : Timestamp) :
    (t.finish id time).aside = t.aside := by
  unfold finish
  split
  · rfl
  · split
    · dsimp only
      split
      · rfl
      · exact aside_exportTo _ _ _
    · rfl

theorem journals_finish (t : Telemetry) (id : Nat) (time : Timestamp) :
    (t.finish id time).journals = t.journals :=
  congrArg Prod.fst (aside_finish t id time)

theorem aside_close (t : Telemetry) (p : Nat) : (t.close p).1.aside = t.aside := by
  unfold close
  rw [shutdownEach_eq_foldl]
  exact foldl_keeps _ aside (aside_tell _ _) _ _

theorem aside_flush (t : Telemetry) (p : Nat) : (t.flush p).1.aside = t.aside := by
  rw [fst_flush]
  split
  · rfl
  · rw [flushEach_eq_foldl]
    exact foldl_keeps _ aside (fun t id => aside_callExporter t id .flush) _ _

theorem aside_shutdown (t : Telemetry) (p : Nat) : (t.shutdown p).1.aside = t.aside := by
  rw [fst_shutdown]
  split
  · rfl
  · exact aside_close t p

theorem aside_releaseProvider (t : Telemetry) (p : Nat) :
    (t.releaseProvider p).aside = t.aside := by
  unfold releaseProvider
  split
  · rfl
  · exact aside_close t p

theorem aside_start (t : Telemetry) (tracer : Tracer) (name : String) (cx : Context) :
    (t.start tracer name cx).1.aside = t.aside := by
  unfold start
  split
  · rfl
  · split <;> rfl

theorem aside_makeProvider (t : Telemetry) (plan : ProviderPlan) (env : Surroundings) :
    (t.makeProvider plan env).aside = t.aside := by
  unfold makeProvider addPlanned
  split
  · dsimp only
    rw [foldl_report]
    rfl
  · rfl

/-- A call may write in a journal, but it does not put the clock forward. -/
theorem now_call (t : Telemetry) (id : Nat) (c : SpanCall) : (t.call id c).1.now = t.now := by
  unfold call
  split
  · rfl
  · split
    · rfl
    · split <;> rfl
    · rfl
    · rfl
    · exact congrArg Prod.snd (aside_finish t id _)
    · rfl
    · rfl

theorem now_callActive (t : Telemetry) (active : ActiveSpan) (c : SpanCall) :
    (t.callActive active c).1.now = t.now := by
  unfold callActive
  split
  · rfl
  · rename_i id _
    have hCall := now_call t id c
    split
    · rfl
    · split
      · rfl
      · split <;> rename_i hResult <;> rw [hResult] at hCall <;> exact hCall

/-- The clock shows the same until time passes. -/
theorem now_after (t : Telemetry) (a : Act) :
    (t.after a).now = match a with
      | .elapse now => now
      | _ => t.now := by
  cases a with
  | call id c => exact now_call t id c
  | callActive active c => exact now_callActive t active c
  | releaseSpan id => exact congrArg Prod.snd (aside_finish t id t.now)
  | start tracer name cx => exact congrArg Prod.snd (aside_start t tracer name cx)
  | provider plan env => exact congrArg Prod.snd (aside_makeProvider t plan env)
  | flush p => exact congrArg Prod.snd (aside_flush t p)
  | shutdown p => exact congrArg Prod.snd (aside_shutdown t p)
  | releaseProvider p => exact congrArg Prod.snd (aside_releaseProvider t p)
  | exporter kind | inert sc | journaled sc | clear id | report d | takeLog | readJournal journal
  | elapse now => rfl

/-! ## Alike states -/

/-- Two states that differ at most in how exporters answer, in what these keep for themselves and in
what has been reported. -/
structure Alike (t t' : Telemetry) : Prop where
  spans : t.spans = t'.spans
  providers : t.providers = t'.providers
  journals : t.journals = t'.journals
  length_exporters : t.exporters.length = t'.exporters.length
  callsOf : ∀ e, t.callsOf e = t'.callsOf e
  now : t.now = t'.now

namespace Alike

variable {t t' : Telemetry}

theorem refl (t : Telemetry) : Alike t t := ⟨rfl, rfl, rfl, rfl, fun _ => rfl, rfl⟩

theorem isClosed (h : Alike t t') (p : Nat) : t.isClosed p = t'.isClosed p := by
  rw [Telemetry.isClosed, h.providers]
  rfl

theorem exportersOf (h : Alike t t') (p : Nat) : t.exportersOf p = t'.exportersOf p := by
  rw [Telemetry.exportersOf, h.providers]
  rfl

theorem delivery? (h : Alike t t') (id : Nat) (time : Timestamp) :
    t.delivery? id time = t'.delivery? id time := by
  rw [Telemetry.delivery?, h.spans]
  simp only [h.isClosed]
  rfl

/-- An act calls the same exporters with the same in both states. -/
theorem request (h : Alike t t') (a : Act) :
    (t.exchanges a).map Exchange.request = (t'.exchanges a).map Exchange.request := by
  have hDeliver : ∀ d?, (t.deliver d?).map Exchange.request =
      (t'.deliver d?).map Exchange.request := by
    intro d?
    cases d? with
    | none => rfl
    | some d =>
      rw [deliver, deliver, map_request_converse, map_request_converse, h.exportersOf]
  cases a with
  | flush p | shutdown p | releaseProvider p =>
    rw [exchanges, exchanges, h.isClosed]
    split
    · rfl
    · rw [map_request_converse, map_request_converse, h.exportersOf]
  | _ => simp only [exchanges, hDeliver, h.delivery?, h.now]

/-- A call on a span writes the same in both states and comes back with the same. -/
theorem call (h : Alike t t') (id : Nat) (c : SpanCall) :
    (t.call id c).1.journals = (t'.call id c).1.journals ∧ (t.call id c).2 = (t'.call id c).2 := by
  unfold Telemetry.call
  rw [h.spans]
  cases t'.spans[id]? with
  | none => exact ⟨h.journals, rfl⟩
  | some s =>
    rcases hKind : s.kind with _ | ⟨journal, finished⟩ | ⟨_ | r, tracer, limits⟩ <;> cases c <;>
      simp [hKind, note, modifySpan, journals_finish, h.journals]
    split <;> simp [h.journals]

theorem callActive (h : Alike t t') (active : ActiveSpan) (c : SpanCall) :
    (t.callActive active c).1.journals = (t'.callActive active c).1.journals ∧
      (t.callActive active c).2 = (t'.callActive active c).2 := by
  unfold Telemetry.callActive
  cases active.span? with
  | none => exact ⟨h.journals, rfl⟩
  | some id =>
    have hCall := h.call id c
    dsimp only
    rw [h.spans]
    cases t'.spans[id]? with
    | none => exact ⟨h.journals, rfl⟩
    | some s =>
      dsimp only
      split
      · exact ⟨h.journals, rfl⟩
      · rcases hFirst : t.call id c with ⟨t₁, _ | m⟩ <;>
          rcases hSecond : t'.call id c with ⟨t₂, _ | m'⟩ <;>
            simp_all [modifySpan]

theorem newSpan? (h : Alike t t') (a : Act) : t.newSpan? a = t'.newSpan? a := by
  cases a with
  | journaled sc => rw [Telemetry.newSpan?, h.journals]; rfl
  | start tracer name cx =>
    rw [Telemetry.newSpan?, begun, h.providers, h.now]
    rfl
  | _ => rfl

theorem newProvider? (h : Alike t t') (a : Act) : t.newProvider? a = t'.newProvider? a := by
  cases a with
  | provider plan env => rw [Telemetry.newProvider?, h.length_exporters, h.providers]; rfl
  | _ => rfl

/-- What writes in a journal writes the same in both states. -/
theorem journals_after (h : Alike t t') (a : Act) :
    (t.after a).journals = (t'.after a).journals := by
  have hAside : ∀ {u u' : Telemetry}, u.aside = t.aside → u'.aside = t'.aside →
      u.journals = u'.journals := fun hu hu' =>
    (congrArg Prod.fst hu).trans (h.journals.trans (congrArg Prod.fst hu').symm)
  cases a with
  | call id c => exact (h.call id c).1
  | callActive active c => exact (h.callActive active c).1
  | journaled sc => exact congrArg (· ++ [[]]) h.journals
  | readJournal journal => exact congrArg (·.set journal []) h.journals
  | provider plan env =>
    exact hAside (aside_makeProvider t plan env) (aside_makeProvider t' plan env)
  | start tracer name cx =>
    exact hAside (aside_start t tracer name cx) (aside_start t' tracer name cx)
  | releaseSpan id => exact hAside (aside_finish t id t.now) (aside_finish t' id t'.now)
  | flush p => exact hAside (aside_flush t p) (aside_flush t' p)
  | shutdown p => exact hAside (aside_shutdown t p) (aside_shutdown t' p)
  | releaseProvider p => exact hAside (aside_releaseProvider t p) (aside_releaseProvider t' p)
  | exporter kind | inert sc | clear id | report d | takeLog | elapse now => exact h.journals

end Alike

/-! ## Runs -/

/-- Two acts that are the same, unless they add exporters, which may answer in different ways. -/
inductive Act.SameButAnswers : Act → Act → Prop
  | exporter (kind kind' : Exporter.Kind) : SameButAnswers (.exporter kind) (.exporter kind')
  | same (a : Act) : SameButAnswers a a

/-- One act keeps two states alike. -/
theorem Alike.after {t t' : Telemetry} {a a' : Act} (h : Alike t t') (hSound : Sound t)
    (hSound' : Sound t') (hActs : a.SameButAnswers a') : Alike (t.after a) (t'.after a') := by
  cases hActs with
  | exporter kind kind' =>
    refine ⟨h.spans, h.providers, h.journals, ?_, fun e => ?_, h.now⟩
    · show (t.exporters ++ [_]).length = (t'.exporters ++ [_]).length
      rw [List.length_append, List.length_append, h.length_exporters]
      rfl
    · rw [callsOf_after hSound, callsOf_after hSound', h.callsOf]
      rfl
  | same =>
    refine ⟨?_, ?_, h.journals_after a, ?_, fun e => ?_, by rw [now_after, now_after, h.now]⟩
    · rw [spans_after, spans_after, h.spans, h.newSpan?]
    · rw [providers_after, providers_after, h.providers, h.newProvider?]
    · by_cases hNew : ∃ kind, a = .exporter kind
      · obtain ⟨kind, rfl⟩ := hNew
        show (t.exporters ++ [_]).length = (t'.exporters ++ [_]).length
        rw [List.length_append, List.length_append, h.length_exporters]
      · have hOld : ∀ kind, a ≠ .exporter kind := fun kind hEq => hNew ⟨kind, hEq⟩
        rw [(tells_after hSound hOld).length_eq, (tells_after hSound' hOld).length_eq,
          h.length_exporters]
    · rw [callsOf_after hSound, callsOf_after hSound', h.callsOf, told_eq_receivedBy,
        told_eq_receivedBy, receivedBy_eq_of_request, receivedBy_eq_of_request, h.request]

theorem Alike.request_of_sameButAnswers {t t' : Telemetry} {a a' : Act} (h : Alike t t')
    (hActs : a.SameButAnswers a') :
    (t.exchanges a).map Exchange.request = (t'.exchanges a').map Exchange.request := by
  cases hActs with
  | exporter kind kind' => rfl
  | same => exact h.request a

/-- A run keeps two states alike, and calls the same exporters with the same on the way. -/
theorem Alike.afterAll {t t' : Telemetry} {acts acts' : List Act} (h : Alike t t')
    (hSound : Sound t) (hSound' : Sound t') (hActs : List.Forall₂ Act.SameButAnswers acts acts') :
    Alike (t.afterAll acts) (t'.afterAll acts') ∧
      (transcript t acts).map Exchange.request = (transcript t' acts').map Exchange.request := by
  induction hActs generalizing t t' with
  | nil => exact ⟨h, rfl⟩
  | cons hFirst _ ih =>
    obtain ⟨hAlike, hRequests⟩ :=
      ih (h.after hSound hSound' hFirst) (hSound.after _) (hSound'.after _)
    refine ⟨hAlike, ?_⟩
    rw [transcript, transcript, List.map_append, List.map_append,
      h.request_of_sameButAnswers hFirst, hRequests]

/-- An act that neither takes the log away nor makes a report of its own. -/
def Act.LeavesLog (a : Act) : Prop := a ≠ .takeLog ∧ ∀ d, a ≠ .report d

theorem reports_afterAll {t : Telemetry} (hSound : Sound t) {acts : List Act}
    (h : ∀ a ∈ acts, a.LeavesLog) : Reports t (t.afterAll acts) (transcript t acts) := by
  induction acts generalizing t with
  | nil => exact reports_nothing rfl
  | cons a rest ih =>
    have hFirst := reports_after hSound (h a List.mem_cons_self).1 (h a List.mem_cons_self).2
    have hRest := ih (hSound.after a) fun other hOther => h other (List.mem_cons_of_mem _ hOther)
    rw [Reports, transcript, List.filterMap_append, ← List.append_assoc, ← hFirst]
    exact hRest

/-! ## What the answers decide -/

/-- Whoever flushes a provider has every exporter called once, in order, and learns of all errors.
-/
structure Flushes (t : Telemetry) (p : Nat) : Prop where
  requests : (t.exchanges (.flush p)).map Exchange.request =
    (t.exportersOf p).map fun e => (e, .flush)
  ok_iff : (t.flush p).2 = .ok () ↔ ∀ x ∈ t.exchanges (.flush p), x.answer? = none
  error : errors (t.exchanges (.flush p)) ≠ [] →
    (t.flush p).2 = .error (.failed ("errs: " ++
      Text.bracketed ((errors (t.exchanges (.flush p))).map ExportError.describe)))

/-- Whoever shuts a provider down has every exporter called once, in order, and learns of the last
error. -/
structure ShutsDown (t : Telemetry) (p : Nat) : Prop where
  requests : (t.exchanges (.shutdown p)).map Exchange.request =
    (t.exportersOf p).map fun e => (e, .shutdown)
  result : (t.shutdown p).2 =
    match (errors (t.exchanges (.shutdown p))).getLast? with
    | some e => .error e
    | none => .ok ()

theorem errors_eq_nil_iff {xs : List Exchange} : errors xs = [] ↔ ∀ x ∈ xs, x.answer? = none :=
  List.filterMap_eq_nil_iff

theorem flushes {t : Telemetry} {p : Nat} (h : t.isClosed p = false) : Flushes t p := by
  have hResult := snd_flush h
  refine ⟨?_, ?_, ?_⟩
  · rw [exchanges_flush h, map_request_converse]
  · rw [← errors_eq_nil_iff, hResult]
    cases errors (t.exchanges (.flush p)) <;> simp
  · intro hErrors
    rw [hResult]
    cases hAll : errors (t.exchanges (.flush p)) with
    | nil => exact absurd hAll hErrors
    | cons e rest => rfl

theorem shutsDown {t : Telemetry} {p : Nat} (h : t.isClosed p = false) : ShutsDown t p := by
  refine ⟨?_, snd_shutdown h⟩
  rw [exchanges_shutdown h, map_request_converse]

/-- Ending a span fails for nobody. -/
theorem snd_call_finish (t : Telemetry) (id : Nat) (time : Timestamp) :
    (t.call id (.finish time)).2 = none := by
  cases hSpan : t.spans[id]? with
  | none => simp [call, hSpan]
  | some s =>
    have hFails := isSome_call hSpan (.finish time)
    have hFine : s.fails (.finish time) = false := by
      unfold Span.fails
      split
      · rename_i hCall
        cases hCall
      · rfl
    rw [hFine] at hFails
    simpa using hFails

theorem snd_callActive_finish (t : Telemetry) (active : ActiveSpan) (time : Timestamp) :
    (t.callActive active (.finish time)).2 = none := by
  unfold callActive
  cases active.span? with
  | none => rfl
  | some id =>
    have hFine := snd_call_finish t id time
    dsimp only
    split
    · rfl
    · split
      · rfl
      · split
        · rfl
        · rename_i hCall
          rw [hCall] at hFine
          cases hFine

/-- What exporters answer is seen by whoever flushes or shuts down and in the log, and has no other
effect. Two runs that differ in the answers alone lead to the same spans, providers and journals, by
the same calls of the same exporters in the same order; a call on a span comes back with the same
after both, and ending a span with no error. Every failure to export or to shut down is reported
once. -/
theorem failures_isolated {acts acts' : List Act}
    (h : List.Forall₂ Act.SameButAnswers acts acts') :
    let t := empty.afterAll acts
    let t' := empty.afterAll acts'
    (Alike t t' ∧
        (transcript empty acts).map Exchange.request =
          (transcript empty acts').map Exchange.request ∧
        ∀ e, t.callsOf e = receivedBy e (transcript empty acts)) ∧
      (∀ id c, (t.call id c).2 = (t'.call id c).2 ∧
        ∀ active, (t.callActive active c).2 = (t'.callActive active c).2) ∧
      (∀ id time, (t.call id (.finish time)).2 = none ∧
        ∀ active, (t.callActive active (.finish time)).2 = none) ∧
      (∀ p, t.isClosed p = false → Flushes t p ∧ ShutsDown t p) ∧
      ∀ more : List Act, (∀ a ∈ more, a.LeavesLog) →
        Reports t (t.afterAll more) (transcript t more) := by
  intro t t'
  obtain ⟨hAlike, hRequests⟩ := (Alike.refl empty).afterAll sound_empty sound_empty h
  refine ⟨⟨hAlike, hRequests, fun e => ?_⟩, fun id c => ⟨(hAlike.call id c).2, fun active => ?_⟩,
    fun id time => ⟨snd_call_finish t id time, fun active => ?_⟩, fun p hOpen => ?_,
    fun more hMore => ?_⟩
  · exact (callsOf_eq_receivedBy sound_empty acts e).trans (List.nil_append _)
  · exact (hAlike.callActive active c).2
  · exact snd_callActive_finish t active time
  · exact ⟨flushes hOpen, shutsDown hOpen⟩
  · exact reports_afterAll (sound_afterAll sound_empty acts) hMore

/-- An exporter that refuses to shut down keeps the one after it from nothing. -/
theorem failures_isolated_refusing :
    let run (kind : Exporter.Kind) : List Act :=
      [.exporter kind, .exporter .memory,
        .provider ⟨[0, 1], some .alwaysOn, none, some (.constant .standard)⟩ .plain, .shutdown 0]
    let refusing : Exporter.Kind := .ruled fun _ _ => some .alreadyShutDown
    (empty.afterAll (run .memory)).log = [] ∧
      (empty.afterAll (run refusing)).log = [.shutdownFailed .alreadyShutDown] ∧
      (empty.afterAll (run refusing)).callsOf 1 = [.shutdown] ∧
      Alike (empty.afterAll (run .memory)) (empty.afterAll (run refusing)) := by
  intro run refusing
  have hSame : List.Forall₂ Act.SameButAnswers (run .memory) (run refusing) :=
    .cons (.exporter _ _) (.cons (.same _) (.cons (.same _) (.cons (.same _) .nil)))
  exact ⟨rfl, rfl, rfl, (failures_isolated hSame).1.1⟩

end SpanFlow.Telemetry
