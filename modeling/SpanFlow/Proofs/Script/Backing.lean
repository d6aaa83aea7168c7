import SpanFlow.Proofs.Script.Reading
import SpanFlow.Proofs.Script.Recording
import SpanFlow.Proofs.Script.Running

/-!
# Scripts take no handles

Whatever the steps of a script do, the session has its handles from an estate: no step holds a span
or a provider that it has not been given, and none keeps one past the point where the session lets
it go. What holds of all estates therefore holds of all scripts.

## Main results

* `bringsNoSpan_composite`: what is read from a carrier holds no span of the session.
* `keeps_perform`: a step leaves a session backed, if the bodies that it runs do so.
* `exists_estate`: every session that a script comes to holds what some estate holds.
-/

namespace SpanFlow.Script

open Session

variable {γ : Type} {C : Course}

/-! ## Steps on carriers and propagators -/

theorem bringsNoSpan_noop : Propagator.noop.BringsNoSpan := by
  intro E reader cx next hcx
  rw [Propagator.extract]
  exact hcx

theorem bringsNoSpan_jaeger (header : String) : (Propagator.jaeger header).BringsNoSpan := by
  intro E reader cx next hcx
  rw [Propagator.extract]
  unfold Propagator.extractJaeger
  split
  · exact hcx
  · split
    · exact hcx.withRemote _ _
    · exact hcx

theorem bringsNoSpan_ofKey (key : Key) (header : String) (fields : List String) :
    (Propagator.ofKey key header fields).BringsNoSpan := by
  intro E reader cx next hcx
  unfold Propagator.ofKey
  rw [Propagator.extract]
  dsimp only
  split
  · exact hcx
  · exact hcx.withText _ _ _

/-- Each member reads into a context to which the one before it has brought no span. -/
theorem bringsNoSpan_composite {members : List Propagator}
    (h : ∀ p ∈ members, p.BringsNoSpan) : (Propagator.composite members).BringsNoSpan := by
  intro E reader cx next hcx
  rw [Propagator.extract]
  induction members generalizing cx next with
  | nil =>
    rw [Propagator.extractAll]
    exact hcx
  | cons p rest ih =>
    rw [Propagator.extractAll]
    have hFirst := h p (List.mem_cons_self ..) E reader cx next hcx
    exact ih (fun q hq => h q (List.mem_cons_of_mem _ hq)) _ _ hFirst

theorem hereditary_bringsNoSpan : Hereditary Propagator.BringsNoSpan where
  noop := bringsNoSpan_noop
  jaeger := bringsNoSpan_jaeger
  ofKey := bringsNoSpan_ofKey
  composite := bringsNoSpan_composite

theorem keeps_namePropagator (target : String) (plan : PropagatorPlan) (described : Bool) :
    Keeps C (namePropagator target plan described) := by
  rintro w ⟨E, h⟩
  refine (hereditary_bringsNoSpan.reads h.propagators plan).leaves ⟨E, h⟩ fun p hp => ?_
  exact leaves_modify ⟨E, { h with propagators := h.propagators.insert target hp }⟩

theorem keeps_setGlobal (plan : PropagatorPlan) : Keeps C (setGlobal plan) := by
  rintro w ⟨E, h⟩
  refine (hereditary_bringsNoSpan.reads h.propagators plan).leaves ⟨E, h⟩ fun p hp => ?_
  exact leaves_modify ⟨E, { h with global := hp }⟩

theorem leaves_propagatorOr {E : Estate} {w : State} {next : Propagator → Action γ}
    {name? : Option String} (h : BackedBy C E w)
    (hNext : ∀ p, p.BringsNoSpan → Leaves C (next p) w) :
    Leaves C (propagatorOr name? >>= next) w :=
  (reads_propagatorOr h.propagators h.global name?).leaves ⟨E, h⟩ hNext

theorem keeps_putCarrier (name : String) (c : Carrier) : Keeps C (putCarrier name c) := by
  rintro w ⟨E, h⟩
  exact ⟨E, { h with }⟩

theorem keeps_setCarrier (name key value : String) : Keeps C (setCarrier name key value) :=
  (readsOnly_named _ name).keeps.bind fun _ => keeps_putCarrier _ _

theorem keeps_inject (flow : Nat) (propagator? : Option String) (carrier : String)
    (cx? : Option String) : Keeps C (inject flow propagator? carrier cx?) := by
  rintro w ⟨E, h⟩
  refine leaves_propagatorOr h fun p _ => leaves_named ⟨E, h⟩ fun c _ => ?_
  exact leaves_contextOr h fun cx _ => keeps_putCarrier _ _ w ⟨E, h⟩

/-- Reports take no handle away. -/
theorem backedBy_reports {E : Estate} {w : State} (h : BackedBy C E w) (reports : List Diagnostic) :
    ∃ E', BackedBy C E' (reports.foldl World.report w) ∧ ∀ x, E.Backs x → E'.Backs x := by
  induction reports generalizing E w with
  | nil => exact ⟨E, h, fun _ hx => hx⟩
  | cons d rest ih =>
    have hOpen : (Telemetry.Act.report d).isOpenTo E.held = true := rfl
    obtain ⟨E', h', hMore⟩ := ih (h.act hOpen)
    exact ⟨E', h', fun x hx => hMore x (BackedBy.backs_act hOpen hx)⟩

theorem keeps_extract (flow : Nat) (target : String) (propagator? : Option String)
    (carrier : String) (cx? : Option String) :
    Keeps C (extract flow target propagator? carrier cx?) := by
  rintro w ⟨E, h⟩
  refine leaves_propagatorOr h fun p hp => leaves_named ⟨E, h⟩ fun c _ => ?_
  refine leaves_contextOr h fun cx hcx => leaves_change ?_
  have hRead := hp E c.extractor cx w.supply hcx
  have hNumbered :
      BackedBy C E { w with supply := (p.extract c.extractor cx w.supply).next } := { h with }
  obtain ⟨E', h', hMore⟩ :=
    backedBy_reports hNumbered (p.extract c.extractor cx w.supply).reports
  exact leaves_bind (leaves_map (leaves_storeContext h' target (hMore _ hRead)))
    fun _ => (readsOnly_pure _).keeps

/-! ## Bodies -/

theorem keeps_runBody {act : Nat → Step → Action Result} (hAct : ∀ flow s, Keeps C (act flow s))
    (flow : Nat) (body : Body) : Keeps C (runBody act flow body) := fun _ hw =>
  preserved_runBody (P := Backed C) (fun _ h => h.takeLog)
    (fun flow guard _ h => backed_closeScope h flow guard)
    hAct flow body hw

theorem readsOnly_readAll (cx : String) : ReadsOnly (readAll cx) :=
  (readsOnly_named _ cx).bind fun _ => readsOnly_ask _

theorem readsOnly_readShared (cx key : String) : ReadsOnly (readShared cx key) := by
  refine (readsOnly_named _ cx).bind fun cx => (readsOnly_named _ key).bind fun k => ?_
  split
  · exact readsOnly_pure _
  · exact readsOnly_ask _

theorem readsOnly_describeGuard (flow : Nat) (name : String) :
    ReadsOnly (describeGuard flow name) := by
  refine (readsOnly_scopeNamed flow name).bind fun s => (readsOnly_ask _).bind fun g? => ?_
  split
  · exact readsOnly_pure _
  · exact readsOnly_throw _

/-- A step that shuts no provider down leaves a session backed, if the bodies that it runs do so. -/
theorem keeps_perform {run : Runner} (hRun : ∀ flow body, Keeps C (run flow body)) (fuel flow : Nat)
    {s : Step} (hStep : ∀ name, s ≠ .shutdown name) : Keeps C (perform run fuel flow s) := by
  cases s with
  | key target name => exact keeps_makeKey target name
  | copyKey target key => exact keeps_copyKey target key
  | sameKey a b =>
    exact ((readsOnly_named _ a).bind fun _ => (readsOnly_named _ b).bind fun _ =>
      readsOnly_pure _).keeps
  | describeKey key => exact ((readsOnly_named _ key).bind fun _ => readsOnly_pure _).keeps
  | share target value => exact keeps_share target value
  | root target =>
    rintro w ⟨E, h⟩
    exact leaves_storeContext h target Estate.backs_root
  | copy target cx =>
    rintro w ⟨E, h⟩
    exact leaves_named ⟨E, h⟩ fun cx hcx => leaves_storeContext h target (h.contexts.of_get? hcx)
  | bind target cx? key value => exact keeps_bind flow target cx? key value
  | bindShared target cx key shared => exact keeps_bindShared target cx key shared
  | current target =>
    rintro w ⟨E, h⟩
    exact leaves_contextOr h fun cx hcx => leaves_storeContext h target hcx
  | read cx? key =>
    exact ((readsOnly_contextOr flow cx?).bind fun _ => (readsOnly_named _ key).bind fun _ =>
      readsOnly_pure _).keeps
  | readAll cx => exact (readsOnly_readAll cx).keeps
  | readShared cx key => exact (readsOnly_readShared cx key).keeps
  | sameContext a b =>
    exact ((readsOnly_named _ a).bind fun _ => (readsOnly_named _ b).bind fun _ =>
      readsOnly_pure _).keeps
  | size cx => exact ((readsOnly_named _ cx).bind fun _ => readsOnly_pure _).keeps
  | describe cx => exact ((readsOnly_named _ cx).bind fun _ => readsOnly_pure _).keeps
  | attach cx guard =>
    rintro w ⟨E, h⟩
    exact leaves_named ⟨E, h⟩ fun cx hcx => leaves_attach h flow (h.contexts.of_get? hcx) guard
  | close guard => exact keeps_closeNamed flow guard
  | describeGuard guard => exact (readsOnly_describeGuard flow guard).keeps
  | fail message => exact (readsOnly_throw _).keeps
  | thread body =>
    exact (keeps_onNewFlow fun other => hRun other body).bind fun _ => (readsOnly_pure _).keeps
  | installStorage => exact (readsOnly_pure _).keeps
  | wrap target cx? body once =>
    rintro w ⟨E, h⟩
    refine leaves_contextOr h fun cx hcx => ?_
    exact Backed.settle ⟨E, { h with works := h.works.insert target hcx }⟩
  | call work => exact (keeps_callWork hRun flow work).bind fun _ => (readsOnly_pure _).keeps
  | callTogether work count =>
    exact (keeps_callTogether hRun work count).bind fun _ => (readsOnly_pure _).keeps
  | executor target cx? mode => exact keeps_makeExecutor target cx? mode
  | execute executor body =>
    exact (keeps_execute hRun flow executor body).bind fun _ => (readsOnly_pure _).keeps
  | runQueue => exact (keeps_runQueue hRun flow fuel).bind fun _ => (readsOnly_pure _).keeps
  | future target cx? polls => exact keeps_makeFuture flow target cx? polls
  | poll future => exact keeps_poll hRun flow future
  | stream target cx? items => exact keeps_makeStream flow target cx? items
  | pollNext stream => exact keeps_pollNext hRun flow stream
  | sink target cx? body failing? => exact keeps_makeSink flow target cx? body failing?
  | callSink sink call => exact keeps_callSink hRun flow sink call
  | takeOff kind name => exact keeps_takeOff kind name
  | elapse now => exact keeps_elapse now
  | request id =>
    rintro w ⟨E, h⟩
    exact ⟨E, h.modifyFlow flow fun f => { f with request := id }⟩
  | hostGet target =>
    rintro w ⟨E, h⟩
    exact leaves_ask (leaves_storeContext h target (h.backs_slot _))
  | hostSet cx =>
    rintro w ⟨E, h⟩
    refine leaves_named ⟨E, h⟩ fun cx hcx => ?_
    exact Backed.settle ⟨E, { h with slots := h.slots.insert _ (h.contexts.of_get? hcx) }⟩
  | inertSpan target sc => exact keeps_makeInert target sc
  | journaledSpan target sc => exact keeps_makeJournaled target sc
  | readJournal span => exact keeps_readJournal span
  | boxSpan span => exact keeps_boxSpan span
  | remote target cx sc => exact keeps_makeRemote target cx sc
  | withSpan target cx? span => exact keeps_withSpan flow target cx? span
  | markActive guard span => exact keeps_markActive flow guard span
  | hasSpan cx => exact ((readsOnly_named _ cx).bind fun _ => readsOnly_pure _).keeps
  | callSpan on call => exact keeps_callOn flow on call
  | isRecording on =>
    exact ((readsOnly_isRecording flow on).bind fun _ => readsOnly_pure _).keeps
  | spanContext on => exact ((readsOnly_identityOf flow on).bind fun _ => readsOnly_pure _).keeps
  | describeSpan on => exact (readsOnly_describeOn flow on).keeps
  | carrier target kind items => exact keeps_putCarrier target _
  | setCarrier carrier name value => exact keeps_setCarrier carrier name value
  | readCarrier carrier name =>
    exact ((readsOnly_named _ carrier).bind fun _ => readsOnly_pure _).keeps
  | describeAdapters => exact (readsOnly_pure _).keeps
  | propagator target plan described => exact keeps_namePropagator target plan described
  | setGlobal plan => exact keeps_setGlobal plan
  | globalFields => exact ((readsOnly_ask _).bind fun _ => readsOnly_pure _).keeps
  | inject propagator? carrier cx? => exact keeps_inject flow propagator? carrier cx?
  | extract target propagator? carrier cx? =>
    exact keeps_extract flow target propagator? carrier cx?
  | exporter target kind => exact keeps_makeExporter target kind
  | stored exporter =>
    exact ((readsOnly_exporterNamed exporter).bind fun _ => readsOnly_pure _).keeps
  | clear exporter => exact keeps_clearExporter exporter
  | handed exporter => exact keeps_handedSince exporter
  | provider target parts described => exact keeps_makeProvider target parts described
  | standardProvider target => exact keeps_makeStandardProvider target
  | limitQueries provider =>
    exact ((readsOnly_named _ provider).bind fun _ => readsOnly_ask _).keeps
  | copyProvider target provider => exact keeps_copyProvider target provider
  | flush provider => exact keeps_flush provider
  | shutdown provider => exact absurd rfl (hStep provider)
  | tracer target provider name => exact keeps_makeTracer target provider name
  | start target tracer name cx? => exact keeps_startSpan flow target tracer name cx?
  | data span => exact ((readsOnly_named _ span).bind fun _ => readsOnly_ask _).keeps
  | inSpan tracer name body target? =>
    exact (keeps_inSpan hRun flow tracer name body target?).bind fun _ => (readsOnly_pure _).keeps
  | release kind name => exact keeps_release kind name

/-- So does one that shuts down a provider which may be asked. -/
theorem leaves_perform {run : Runner} (hRun : ∀ flow body, Keeps C (run flow body))
    (fuel flow : Nat) {s : Step} {w : State} (hw : Backed C w)
    (hAsked : ∀ name p, s = .shutdown name → Assoc.get? w.providers name = some p → C.asked p) :
    Leaves C (perform run fuel flow s) w := by
  by_cases hStep : ∃ name, s = .shutdown name
  · obtain ⟨name, rfl⟩ := hStep
    exact leaves_shutdown hw fun p => hAsked name p rfl
  · exact keeps_perform hRun fuel flow (fun name hSame => hStep ⟨name, hSame⟩) w hw

theorem keeps_performWith (fuel flow : Nat) (s : Step) : Keeps .any (performWith fuel flow s) :=
  fun _ hw => preserved_performWith (P := Backed .any) (fun _ h => h.takeLog)
    (fun flow guard _ h => backed_closeScope h flow guard)
    (fun _ hRun fuel flow _ _ hw => leaves_perform hRun fuel flow hw fun _ _ _ _ => trivial)
    fuel flow s hw

/-- Whatever a script does, on whatever flow and to whatever depth, the session that it comes to
holds what some estate holds as soon as the session has settled, and the same has happened in
both. -/
theorem exists_estate (fuel flow : Nat) (body : Body) (byRequest : Bool)
    (environment : Surroundings) :
    let w := (runBody (performWith fuel) flow body (World.initial byRequest environment)).2
    ∃ moves, (Estate.empty.run moves).telemetry = w.settle.telemetry ∧
      (Estate.empty.run moves).held = w.settle.holdings :=
  exists_held_settle (keeps_runBody (keeps_performWith fuel) flow body _
    (backed_initial _ byRequest environment))

end SpanFlow.Script
