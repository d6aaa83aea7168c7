import Mathlib.Data.List.Basic
import SpanFlow.Proofs.Recording.Told

/-!
# Exchanges with exporters

An exporter that is called answers. This module writes down, for every act, with which exporters it
has to do in which order, what they are called with and what they answer: a list of exchanges. From
that list everything follows that can come of answers. Each exporter has received what is addressed
to it; a flush fails with all the errors in it, a shutdown with the last one; and the failures that
are reported are those to export and to shut down, each once.

Exporters answer by rules that may depend on all calls so far, so an exchange depends on those
before it. The list is therefore made by calling the exporters in turn. What is said about it below
holds whatever the rules are.

## Main results

* `told_eq_receivedBy`: what an act calls an exporter with is what the exchanges say.
* `snd_flush`, `snd_shutdown`: what flushing and shutting down come back with.
* `reports_after`: which failures an act reports.
-/

namespace SpanFlow

/-- Whether a report is that of a failure to export or to shut down. -/
def Diagnostic.isFailure : Diagnostic → Bool
  | exportFailed _ | shutdownFailed _ => true
  | _ => false

namespace Telemetry

/-! ## Exchanges -/

/-- A call of an exporter with the error that it answers with. -/
structure Exchange where
  exporter : Nat
  call : ExporterCall
  answer? : Option ExportError

/-- What the code that is called can know of an exchange before it answers. -/
def Exchange.request (x : Exchange) : Nat × ExporterCall := (x.exporter, x.call)

/-- The report that an exchange gives rise to. Errors at a flush go to whoever asked for it. -/
def Exchange.report? (x : Exchange) : Option Diagnostic :=
  match x.call with
  | .export _ => x.answer?.map .exportFailed
  | .flush => none
  | .shutdown => x.answer?.map .shutdownFailed

/-- What an exporter receives in exchanges, in order. -/
def receivedBy (exporter : Nat) (exchanges : List Exchange) : List ExporterCall :=
  (exchanges.filter fun x => x.exporter = exporter).map Exchange.call

/-- The errors in exchanges, in order. -/
def errors (exchanges : List Exchange) : List ExportError := exchanges.filterMap Exchange.answer?

/-- The exchanges in which exporters receive one call, each in turn. -/
def converse (c : ExporterCall) : List Nat → Telemetry → List Exchange
  | [], _ => []
  | id :: rest, t =>
    let (t, answer?) := t.callExporter id c
    ⟨id, c, answer?⟩ :: converse c rest t

/-- The exchanges in which a provider hands on a span that ends. -/
def deliver (t : Telemetry) : Option (Nat × SpanData) → List Exchange
  | none => []
  | some (provider, data) => converse (.export [data]) (t.exportersOf provider) t

/-- The exchanges that an act gives rise to. -/
def exchanges (t : Telemetry) : Act → List Exchange
  | .flush p => if t.isClosed p then [] else converse .flush (t.exportersOf p) t
  | .shutdown p | .releaseProvider p =>
    if t.isClosed p then [] else converse .shutdown (t.exportersOf p) t
  | a => t.deliver ((a.ends? t.now).bind fun x => t.delivery? x.1 x.2)

/-- The exchanges of a run. -/
def transcript (t : Telemetry) : List Act → List Exchange
  | [] => []
  | a :: rest => t.exchanges a ++ transcript (t.after a) rest

theorem receivedBy_append (e : Nat) (xs ys : List Exchange) :
    receivedBy e (xs ++ ys) = receivedBy e xs ++ receivedBy e ys := by
  rw [receivedBy, List.filter_append, List.map_append]
  rfl

/-! ## One call after the other -/

section Converse

variable {t t' : Telemetry} (c : ExporterCall) (ids : List Nat)

theorem exporters_callExporter_congr (h : t.exporters = t'.exporters) (id : Nat) :
    (t.callExporter id c).1.exporters = (t'.callExporter id c).1.exporters := by
  unfold callExporter
  rw [h]
  cases t'.exporters[id]? with
  | none => exact h
  | some e => rfl

theorem snd_callExporter_congr (h : t.exporters = t'.exporters) (id : Nat) :
    (t.callExporter id c).2 = (t'.callExporter id c).2 := by
  unfold callExporter
  rw [h]
  cases t'.exporters[id]? <;> rfl

/-- Nothing but the exporters has a part in what they answer. -/
theorem converse_congr (h : t.exporters = t'.exporters) :
    converse c ids t = converse c ids t' := by
  induction ids generalizing t t' with
  | nil => rfl
  | cons id rest ih =>
    rw [converse, converse]
    simp only [snd_callExporter_congr c h id, ih (exporters_callExporter_congr c h id)]

/-- Each exporter is called once for each time that it is in the list, in the order of the list. -/
theorem map_request_converse (t : Telemetry) :
    (converse c ids t).map Exchange.request = ids.map fun id => (id, c) := by
  induction ids generalizing t with
  | nil => rfl
  | cons id rest ih =>
    rw [converse, List.map_cons, List.map_cons]
    exact congrArg ((id, c) :: ·) (ih _)

theorem call_of_mem_converse {x : Exchange} (h : x ∈ converse c ids t) : x.call = c := by
  have hRequest : x.request ∈ ids.map fun id => (id, c) := by
    rw [← map_request_converse c ids t]
    exact List.mem_map_of_mem h
  obtain ⟨id, -, hSame⟩ := List.mem_map.1 hRequest
  exact (congrArg Prod.snd hSame).symm

theorem receivedBy_eq_of_request (e : Nat) (xs : List Exchange) :
    receivedBy e xs =
      ((xs.map Exchange.request).filter fun r => r.1 = e).map Prod.snd := by
  rw [List.filter_map, List.map_map]
  rfl

theorem receivedBy_converse (t : Telemetry) (e : Nat) :
    receivedBy e (converse c ids t) = List.replicate (ids.count e) c := by
  rw [receivedBy_eq_of_request, map_request_converse, List.filter_map, List.map_map]
  have hFilter : (ids.filter ((fun r : Nat × ExporterCall => decide (r.1 = e)) ∘ fun id => (id, c)))
      = ids.filter (· == e) := by
    refine List.filter_congr fun id _ => ?_
    rw [Bool.eq_iff_iff]
    simp
  rw [hFilter, List.filter_beq]
  simp

/-! ### The three ways of calling exporters in turn -/

theorem converse_cons (id : Nat) (t : Telemetry) :
    converse c (id :: ids) t =
      ⟨id, c, (t.callExporter id c).2⟩ :: converse c ids (t.callExporter id c).1 := rfl

theorem errors_cons (x : Exchange) (xs : List Exchange) :
    errors (x :: xs) = x.answer?.toList ++ errors xs := by
  cases h : x.answer? <;> simp [errors, h]

theorem snd_flushEach (t : Telemetry) :
    (flushEach ids t).2 = errors (converse .flush ids t) := by
  induction ids generalizing t with
  | nil => rfl
  | cons id rest ih =>
    rw [converse_cons, errors_cons, ← ih]
    rfl

theorem snd_shutdownEach (last? : Option ExportError) (t : Telemetry) :
    (shutdownEach last? ids t).2 = (errors (converse .shutdown ids t)).getLast?.or last? := by
  induction ids generalizing t last? with
  | nil => rfl
  | cons id rest ih =>
    rw [converse_cons, errors_cons, shutdownEach]
    rcases t.callExporter id .shutdown with ⟨t', _ | e⟩
    · exact ih last? t'
    · have hReport : converse .shutdown rest (t'.report (.shutdownFailed e)) =
          converse .shutdown rest t' := converse_congr _ _ rfl
      simp only [ih, hReport, Option.toList_some, List.singleton_append, List.getLast?_cons]
      cases (errors (converse .shutdown rest t')).getLast? <;> rfl

theorem log_foldl_tell (onFailure : ExportError → Diagnostic) (t : Telemetry) :
    (ids.foldl (tell c onFailure) t).log = t.log ++ (errors (converse c ids t)).map onFailure := by
  induction ids generalizing t with
  | nil => exact (List.append_nil _).symm
  | cons id rest ih =>
    have hLog := log_callExporter t id c
    have hRest : converse c rest (tell c onFailure t id) =
        converse c rest (t.callExporter id c).1 :=
      converse_congr c rest (exporters_tell c onFailure t id)
    rw [List.foldl_cons, ih, hRest, converse_cons, errors_cons, List.map_append]
    unfold tell
    rcases hCall : t.callExporter id c with ⟨t', _ | e⟩ <;> rw [hCall] at hLog
    · exact congrArg (· ++ _) hLog
    · show (t'.log ++ [onFailure e]) ++ _ = _
      rw [show t'.log = t.log from hLog, List.append_assoc]
      rfl

end Converse

/-! ## Calls received -/

theorem receivedBy_deliver (t : Telemetry) (e : Nat) (d? : Option (Nat × SpanData)) :
    receivedBy e (t.deliver d?) = t.receipts e d? := by
  cases d? with
  | none => rfl
  | some d => exact receivedBy_converse _ _ t e

/-- What an act calls an exporter with is what is addressed to it in the exchanges. -/
theorem told_eq_receivedBy (t : Telemetry) (a : Act) (e : Nat) :
    t.told a e = receivedBy e (t.exchanges a) := by
  cases a with
  | flush p | shutdown p | releaseProvider p =>
    rw [told, exchanges]
    by_cases hClosed : t.isClosed p = true
    · rw [if_pos hClosed, if_pos hClosed]
      rfl
    · rw [if_neg hClosed, if_neg hClosed, receivedBy_converse]
  | _ => simp only [told, exchanges, receivedBy_deliver]

theorem callsOf_eq_receivedBy {t : Telemetry} (h : Sound t) (acts : List Act) (e : Nat) :
    (t.afterAll acts).callsOf e = t.callsOf e ++ receivedBy e (transcript t acts) := by
  induction acts generalizing t with
  | nil => exact (List.append_nil _).symm
  | cons a rest ih =>
    rw [afterAll_cons, ih (h.after a), callsOf_after h, transcript, receivedBy_append,
      told_eq_receivedBy, List.append_assoc]

/-! ## Flushing and shutting down -/

theorem exchanges_flush {t : Telemetry} {p : Nat} (h : t.isClosed p = false) :
    t.exchanges (.flush p) = converse .flush (t.exportersOf p) t := by
  rw [exchanges, if_neg (by simp [h])]

theorem exchanges_shutdown {t : Telemetry} {p : Nat} (h : t.isClosed p = false) :
    t.exchanges (.shutdown p) = converse .shutdown (t.exportersOf p) t := by
  rw [exchanges, if_neg (by simp [h])]

/-- A flush fails with all the errors of the exporters, or with none. -/
theorem snd_flush {t : Telemetry} {p : Nat} (h : t.isClosed p = false) :
    (t.flush p).2 =
      match errors (t.exchanges (.flush p)) with
      | [] => .ok ()
      | failures =>
        .error (.failed ("errs: " ++ Text.bracketed (failures.map ExportError.describe))) := by
  rw [exchanges_flush h, ← snd_flushEach, flush, if_neg (by simp [h])]
  rcases flushEach (t.exportersOf p) t with ⟨t', _ | ⟨e, rest⟩⟩ <;> rfl

theorem snd_close (t : Telemetry) (p : Nat) :
    (t.close p).2 = (errors (converse .shutdown (t.exportersOf p) t)).getLast? := by
  have hSame : converse .shutdown (t.exportersOf p)
      (t.modifyProvider p fun q => { q with closed := true }) =
        converse .shutdown (t.exportersOf p) t := converse_congr _ _ rfl
  rw [close, snd_shutdownEach, hSame, Option.or_none]

/-- A shutdown fails with the last error of the exporters, or with none. -/
theorem snd_shutdown {t : Telemetry} {p : Nat} (h : t.isClosed p = false) :
    (t.shutdown p).2 =
      match (errors (t.exchanges (.shutdown p))).getLast? with
      | some e => .error e
      | none => .ok () := by
  rw [exchanges_shutdown h, ← snd_close, shutdown, if_neg (by simp [h])]
  rcases t.close p with ⟨t', _ | e⟩ <;> rfl

/-! ## Failures that are reported -/

/-- The log of `t'` has, beyond what is in that of `t`, the reports of the exchanges, and no other
failures. -/
def Reports (t t' : Telemetry) (exchanges : List Exchange) : Prop :=
  t'.log.filter Diagnostic.isFailure =
    t.log.filter Diagnostic.isFailure ++ exchanges.filterMap Exchange.report?

section Reports

variable {t t' t'' : Telemetry} {xs : List Exchange}

theorem reports_nothing (h : t'.log = t.log) : Reports t t' [] := by
  rw [Reports, h]
  exact (List.append_nil _).symm

/-- Only the log at the beginning matters. -/
theorem Reports.from (h : Reports t t' xs) (hLog : t.log = t''.log) : Reports t'' t' xs := by
  rw [Reports, ← hLog]
  exact h

/-- Only the log at the end matters, and of that only the failures. -/
theorem Reports.congr (h : Reports t t' xs)
    (hLog : t''.log.filter Diagnostic.isFailure = t'.log.filter Diagnostic.isFailure) :
    Reports t t'' xs := by
  rw [Reports, hLog]
  exact h

/-- Any way of calling exporters in turn that reports all errors as failures. -/
theorem reports_foldl_tell {c : ExporterCall} {onFailure : ExportError → Diagnostic}
    (hReport : ∀ id answer?, (Exchange.mk id c answer?).report? = answer?.map onFailure)
    (hFailure : ∀ e, (onFailure e).isFailure = true) (ids : List Nat) (t : Telemetry) :
    Reports t (ids.foldl (tell c onFailure) t) (converse c ids t) := by
  have hExchanges : (converse c ids t).filterMap Exchange.report? =
      (errors (converse c ids t)).map onFailure := by
    rw [errors, List.map_filterMap]
    refine List.filterMap_congr fun x hx => ?_
    rw [← hReport x.exporter x.answer?, ← call_of_mem_converse c ids hx]
  have hAll : ((errors (converse c ids t)).map onFailure).filter Diagnostic.isFailure =
      (errors (converse c ids t)).map onFailure := by
    refine List.filter_eq_self.2 fun d hd => ?_
    obtain ⟨e, -, rfl⟩ := List.mem_map.1 hd
    exact hFailure e
  rw [Reports, log_foldl_tell, List.filter_append, hAll, hExchanges]

theorem reports_exportTo (data : SpanData) (ids : List Nat) (t : Telemetry) :
    Reports t (exportTo data ids t) (converse (.export [data]) ids t) := by
  rw [exportTo_eq_foldl]
  exact reports_foldl_tell (fun _ _ => rfl) (fun _ => rfl) ids t

theorem reports_close (t : Telemetry) (p : Nat) :
    Reports t (t.close p).1 (converse .shutdown (t.exportersOf p) t) := by
  have hSame : converse .shutdown (t.exportersOf p)
      (t.modifyProvider p fun q => { q with closed := true }) =
        converse .shutdown (t.exportersOf p) t := converse_congr _ _ rfl
  rw [← hSame, close, shutdownEach_eq_foldl]
  exact (reports_foldl_tell (fun _ _ => rfl) (fun _ => rfl) _ _).from rfl

theorem reports_finish (t : Telemetry) (id : Nat) (time : Timestamp) :
    Reports t (t.finish id time) (t.deliver (t.delivery? id time)) := by
  cases hData : t.dataOf? id with
  | none =>
    rw [delivery?_eq_none hData, finish_eq_self hData]
    exact reports_nothing rfl
  | some data =>
    obtain ⟨s, hSpan, hData⟩ := Option.bind_eq_some_iff.1 hData
    obtain ⟨p, hProvider⟩ := Span.provider?_of_data? hData
    have hDelivery : t.delivery? id time =
        if t.isClosed p || !s.context.isSampled then none
        else some (p, { data with finish := time }) := by
      simp [delivery?, hSpan, hData, hProvider]
    rw [hDelivery, finish_eq hSpan hData hProvider]
    split
    · exact reports_nothing rfl
    · have hSame : converse (.export [{ data with finish := time }]) (t.exportersOf p)
          (t.modifySpan id Span.ended) = t.deliver (some (p, { data with finish := time })) :=
        converse_congr _ _ rfl
      rw [← hSame]
      exact (reports_exportTo _ _ (t.modifySpan id Span.ended)).from rfl

/-- Only ending a span reports anything. -/
theorem log_call (t : Telemetry) (id : Nat) (c : SpanCall) :
    (t.call id c).1.log =
      match c.ends? with
      | some time => (t.finish id time).log
      | none => t.log := by
  unfold call
  cases hSpan : t.spans[id]? with
  | none => cases c <;> simp [SpanCall.ends?, finish, hSpan]
  | some s =>
    rcases hKind : s.kind with _ | ⟨journal, finished⟩ | ⟨_ | r, tracer, limits⟩
    · cases c <;> simp [hKind, SpanCall.ends?, finish, hSpan]
    · cases c with
      | rename name =>
        simp only [hKind, SpanCall.ends?]
        split <;> rfl
      | _ => simp [hKind, SpanCall.ends?, finish, hSpan, note, modifySpan]
    · cases c <;> simp [hKind, SpanCall.ends?]
    · cases c <;> simp [hKind, SpanCall.ends?, modifySpan]

theorem reports_call (t : Telemetry) (id : Nat) (c : SpanCall) :
    Reports t (t.call id c).1 (t.deliver (c.ends?.bind (t.delivery? id))) := by
  have hLog := log_call t id c
  cases hEnds : c.ends? with
  | none =>
    rw [hEnds] at hLog
    exact reports_nothing hLog
  | some time =>
    rw [hEnds] at hLog
    exact (reports_finish t id time).congr (by rw [hLog])

/-- A call through a context fails as the call itself does; a span that failed before makes a
report that is no failure of an exporter. -/
theorem failures_callActive (t : Telemetry) (active : ActiveSpan) (c : SpanCall) :
    (t.callActive active c).1.log.filter Diagnostic.isFailure =
      match active.span? with
      | none => t.log.filter Diagnostic.isFailure
      | some id =>
        if t.spans[id]?.any Span.poisoned then t.log.filter Diagnostic.isFailure
        else (t.call id c).1.log.filter Diagnostic.isFailure := by
  unfold callActive
  cases active.span? with
  | none => rfl
  | some id =>
    dsimp only
    cases hSpan : t.spans[id]? with
    | none => simp [call, hSpan]
    | some s =>
      by_cases hPoisoned : s.poisoned = true
      · simp [hPoisoned, report, Diagnostic.isFailure]
      · simp only [hPoisoned, Option.any_some]
        rcases hCall : t.call id c with ⟨t', _ | message⟩ <;> rfl

/-- A span that failed half-way delivers nothing. -/
theorem delivery?_of_poisoned {id : Nat} (h : Sound t)
    (hPoisoned : t.spans[id]?.any Span.poisoned = true) (time : Timestamp) :
    t.delivery? id time = none := by
  refine delivery?_eq_none ?_ time
  unfold dataOf?
  cases hSpan : t.spans[id]? with
  | none => rfl
  | some s =>
    exact h.data?_of_poisoned s (List.mem_of_getElem? hSpan) (by simpa [hSpan] using hPoisoned)

theorem reports_callActive (h : Sound t) (active : ActiveSpan) (c : SpanCall) :
    Reports t (t.callActive active c).1
      (t.deliver (active.span?.bind fun id => c.ends?.bind (t.delivery? id))) := by
  have hFailures := failures_callActive t active c
  cases hActive : active.span? with
  | none =>
    rw [hActive] at hFailures
    exact (reports_nothing rfl).congr hFailures
  | some id =>
    simp only [hActive] at hFailures
    rw [Option.bind_some]
    by_cases hPoisoned : t.spans[id]?.any Span.poisoned = true
    · have hNone : c.ends?.bind (t.delivery? id) = none := by
        cases c.ends? with
        | none => rfl
        | some time => exact delivery?_of_poisoned h hPoisoned time
      rw [if_pos hPoisoned] at hFailures
      rw [hNone]
      exact (reports_nothing rfl).congr hFailures
    · rw [if_neg hPoisoned] at hFailures
      exact (reports_call t id c).congr hFailures

theorem log_start (t : Telemetry) (tracer : Tracer) (name : String) (cx : Context) :
    (t.start tracer name cx).1.log = t.log := by
  unfold start
  split
  · rfl
  · split <;> rfl

theorem reports_makeProvider (t : Telemetry) (plan : ProviderPlan) (env : Surroundings) :
    Reports t (t.makeProvider plan env) [] := by
  have hReports : (plan.limits env).2.filter Diagnostic.isFailure = [] := by
    unfold ProviderPlan.limits
    split
    · rfl
    · split <;> rfl
  refine (reports_nothing (rfl : t.log = t.log)).congr ?_
  unfold makeProvider addPlanned
  split
  · dsimp only
    rw [foldl_report]
    show (t.log ++ _).filter _ = _
    rw [List.filter_append, hReports, List.append_nil]
  · rfl

/-- A flush reports nothing; whoever asked for it has the errors. -/
theorem reports_flush (t : Telemetry) (p : Nat) :
    Reports t (t.flush p).1 (t.exchanges (.flush p)) := by
  have hNone : ∀ ids, (converse .flush ids t).filterMap Exchange.report? = [] := by
    intro ids
    refine List.filterMap_eq_nil_iff.2 fun x hx => ?_
    rw [Exchange.report?, call_of_mem_converse _ _ hx]
  rw [fst_flush, exchanges]
  by_cases hClosed : t.isClosed p = true
  · rw [if_pos hClosed, if_pos hClosed]
    exact reports_nothing rfl
  · have hLog : (flushEach (t.exportersOf p) t).1.log = t.log := by
      rw [flushEach_eq_foldl]
      exact foldl_keeps _ (·.log) (fun t id => log_callExporter t id .flush) _ t
    rw [if_neg hClosed, if_neg hClosed, Reports, hNone, hLog, List.append_nil]

theorem reports_shutdown (t : Telemetry) (p : Nat) :
    Reports t (t.shutdown p).1 (t.exchanges (.shutdown p)) := by
  rw [fst_shutdown, exchanges]
  by_cases hClosed : t.isClosed p = true
  · rw [if_pos hClosed, if_pos hClosed]
    exact reports_nothing rfl
  · rw [if_neg hClosed, if_neg hClosed]
    exact reports_close t p

theorem reports_releaseProvider (t : Telemetry) (p : Nat) :
    Reports t (t.releaseProvider p) (t.exchanges (.releaseProvider p)) := by
  unfold releaseProvider exchanges
  by_cases hClosed : t.isClosed p = true
  · simp only [hClosed, if_true]
    refine (reports_nothing (rfl : t.log = t.log)).congr ?_
    simp [report, modifyProvider, Diagnostic.isFailure]
  · simp only [hClosed]
    exact (reports_close t p).congr rfl

/-- What an act reports are the failures in its exchanges, each once. Acts that take the log away or
report by themselves are no concern of exporters. -/
theorem reports_after (h : Sound t) {a : Act} (hLog : a ≠ .takeLog) (hReport : ∀ d, a ≠ .report d) :
    Reports t (t.after a) (t.exchanges a) := by
  cases a with
  | takeLog => exact absurd rfl hLog
  | report d => exact absurd rfl (hReport d)
  | provider plan env => exact reports_makeProvider t plan env
  | call id c =>
    have hSame : t.exchanges (.call id c) = t.deliver (c.ends?.bind (t.delivery? id)) := by
      show t.deliver ((c.ends?.map _).bind _) = _
      cases c.ends? <;> rfl
    rw [hSame]
    exact reports_call t id c
  | callActive active c =>
    have hSame : t.exchanges (.callActive active c) =
        t.deliver (active.span?.bind fun id => c.ends?.bind (t.delivery? id)) := by
      show t.deliver ((active.span?.bind fun id => c.ends?.map _).bind _) = _
      cases active.span? <;> cases c.ends? <;> rfl
    rw [hSame]
    exact reports_callActive h active c
  | releaseSpan id => exact (reports_finish t id t.now).congr rfl
  | flush p => exact reports_flush t p
  | shutdown p => exact reports_shutdown t p
  | releaseProvider p => exact reports_releaseProvider t p
  | start tracer name cx => exact reports_nothing (log_start t tracer name cx)
  | exporter kind | inert sc | journaled sc | clear id | readJournal journal | elapse now =>
    exact reports_nothing rfl

end Reports

end Telemetry

end SpanFlow
