import SpanFlow.Proofs.Script.Scopes
import SpanFlow.Script.Providers

/-!
# Steps on spans and providers

Steps that start spans, hand them to contexts and set up providers. A span comes with a handle to
it, which starting it brings; starting it takes a handle to its provider, which a tracer is.

## Main results

* `leaves_takeSpan`: a span that is taken from its name can be held otherwise.
* `backedBy_start`, `leaves_addProvider`: what is made comes with a handle.
* `keeps_inSpan`: running a body inside a span.
-/

namespace SpanFlow.Script

open Session

variable {γ : Type} {C : Course}

/-! ## Steps on spans -/

theorem span?_activeSpan {t : Telemetry} {id i : Nat} (h : (t.activeSpan id).span? = some i) :
    i = id := by
  unfold Telemetry.activeSpan at h
  split at h
  · exact (Option.some.inj h).symm
  · cases h

/-- A context that is handed a span holds it. -/
theorem backs_withSpan {E : Estate} {cx : Context} {id : Nat} (hcx : E.Backs (.context cx))
    (hid : E.Backs (.span id)) (t : Telemetry) (number : Nat) :
    E.Backs (.context (cx.withSpan number (t.activeSpan id))) := by
  refine hcx.withSpan (fun i hi => ?_) number
  rw [span?_activeSpan hi]
  exact hid.span id rfl

theorem keeps_makeInert (target : String) (sc : SpanContext) : Keeps C (makeInert target sc) := by
  rintro w ⟨E, h⟩
  have hOpen : (Telemetry.Act.inert sc).isOpenTo E.held = true := rfl
  exact (h.act hOpen).nameSpan target (h.backs_newSpan hOpen rfl)

theorem keeps_makeJournaled (target : String) (sc : SpanContext) :
    Keeps C (makeJournaled target sc) := by
  rintro w ⟨E, h⟩
  have hOpen : (Telemetry.Act.journaled sc).isOpenTo E.held = true := rfl
  have hNamed : BackedBy C (E.step (.act (.journaled sc))) { w with
      telemetry := w.telemetry.after (.journaled sc)
      journals := Assoc.insert w.journals target w.telemetry.journals.length } :=
    { h.act hOpen with }
  exact hNamed.nameSpan target (h.backs_newSpan hOpen rfl)

theorem keeps_boxSpan (name : String) : Keeps C (boxSpan name) := by
  rintro w ⟨E, h⟩
  exact leaves_named ⟨E, h⟩ fun id _ => ⟨E, { h with }⟩

theorem keeps_readJournal (name : String) : Keeps C (readJournal name) := by
  intro w h
  refine leaves_named h fun id _ => ?_
  exact h.act (a := .readJournal id) fun _ => rfl

/-- What is taken from its name is still there to be held otherwise. -/
theorem leaves_takeSpan {E : Estate} {w : State} {next : ActiveSpan → Action γ} {name : String}
    (h : BackedBy C E w)
    (hNext : ∀ id w', E.Backs (.span id) → BackedBy C E w' →
      Leaves C (next (w.telemetry.activeSpan id)) w') :
    Leaves C (takeSpan name >>= next) w := by
  unfold takeSpan
  rw [bind_assoc]
  refine leaves_named ⟨E, h⟩ fun id hid => ?_
  exact hNext id _ (h.spans.of_get? hid) { h with spans := h.spans.erase name }

theorem keeps_withSpan (flow : Nat) (target : String) (cx? : Option String) (span : String) :
    Keeps C (withSpan flow target cx? span) := by
  rintro w ⟨E, h⟩
  refine leaves_contextOr h fun cx hcx => leaves_takeSpan h fun id w' hid h' => ?_
  exact leaves_storeContext h'.fresh target (backs_withSpan hcx hid _ _)

theorem keeps_markActive (flow : Nat) (guard span : String) :
    Keeps C (markActive flow guard span) := by
  rintro w ⟨E, h⟩
  refine leaves_contextOr h fun cx hcx => leaves_takeSpan h fun id w' hid h' => ?_
  exact leaves_attach h'.fresh flow (backs_withSpan hcx hid _ _) guard

theorem keeps_makeRemote (target cx : String) (sc : SpanContext) :
    Keeps C (makeRemote target cx sc) := by
  rintro w ⟨E, h⟩
  refine leaves_named ⟨E, h⟩ fun cx hcx => ?_
  exact leaves_storeContext h.fresh target ((h.contexts.of_get? hcx).withRemote _ _)

theorem keeps_passOn {act : Telemetry → Telemetry × Option String}
    {a : Telemetry → Telemetry.Act} (hAct : ∀ t, (act t).1 = t.after (a t))
    (hOpen : ∀ t held, (a t).isOpenTo held = true) : Keeps C (passOn act) := by
  intro w h
  refine leaves_change ?_
  have hAfter : Backed C { w with telemetry := (act w.telemetry).1 } := by
    rw [hAct]
    exact h.act (hOpen _)
  rcases hActed : act w.telemetry with ⟨t, _ | message⟩ <;> rw [hActed] at hAfter
  · exact hAfter
  · exact hAfter

theorem keeps_elapse (now : Timestamp) : Keeps C (elapse now) := fun _ h =>
  h.act (a := .elapse now) fun _ => rfl

theorem readsOnly_carriedBy (flow : Nat) (cx? : Option String) :
    ReadsOnly (carriedBy flow cx?) := (readsOnly_contextOr flow cx?).map _

theorem readsOnly_isRecording (flow : Nat) (on : Target) : ReadsOnly (isRecording flow on) := by
  cases on with
  | named name => exact (readsOnly_named _ name).bind fun _ => readsOnly_ask _
  | carried cx => exact (readsOnly_carriedBy flow _).bind fun _ => readsOnly_ask _
  | active => exact (readsOnly_carriedBy flow none).bind fun _ => readsOnly_ask _

theorem keeps_callOn (flow : Nat) (on : Target) (call : Timestamp → SpanCall) :
    Keeps C (callOn flow on call) := by
  have hAfter : ∀ on, Keeps C (do return .recording (← isRecording flow on) : Action Result) :=
    fun on => ((readsOnly_isRecording flow on).bind fun _ => readsOnly_pure _).keeps
  cases on with
  | named name =>
    refine (readsOnly_named _ name).keeps.bind fun id => ?_
    exact (keeps_passOn (a := fun t => .call id (call t.now)) (fun _ => rfl)
      fun _ _ => rfl).bind fun _ => hAfter _
  | carried cx =>
    refine (readsOnly_carriedBy flow _).keeps.bind fun active => ?_
    exact (keeps_passOn (a := fun t => .callActive active (call t.now)) (fun _ => rfl)
      fun _ _ => rfl).bind fun _ => hAfter _
  | active =>
    refine (readsOnly_carriedBy flow none).keeps.bind fun active => ?_
    exact (keeps_passOn (a := fun t => .callActive active (call t.now)) (fun _ => rfl)
      fun _ _ => rfl).bind fun _ => hAfter _

theorem readsOnly_identityOf (flow : Nat) (on : Target) : ReadsOnly (identityOf flow on) := by
  cases on with
  | named name => exact (readsOnly_named _ name).bind fun _ => readsOnly_ask _
  | carried cx => exact (readsOnly_carriedBy flow _).map _
  | active => exact (readsOnly_carriedBy flow none).map _

theorem readsOnly_describeOn (flow : Nat) (on : Target) : ReadsOnly (describeOn flow on) := by
  cases on with
  | named name => exact readsOnly_throw _
  | carried cx => exact (readsOnly_carriedBy flow _).map _
  | active => exact (readsOnly_carriedBy flow none).map _

/-! ## Steps on exporters, providers and tracers -/

theorem keeps_makeExporter (target : String) (kind : Exporter.Kind) :
    Keeps C (makeExporter target kind) := by
  rintro w ⟨E, h⟩
  have hOpen : (Telemetry.Act.exporter kind).isOpenTo E.held = true := rfl
  have hMade := h.act hOpen
  have hThere : w.telemetry.exporters.length <
      (w.telemetry.after (.exporter kind)).exporters.length := by
    simp [Telemetry.after, Telemetry.addExporter]
  exact ⟨_, { hMade with exporters := hMade.exporters.insert target hThere }⟩

theorem exporterNamed_apply (name : String) (w : State) :
    exporterNamed name w =
      match Assoc.get? w.exporters name with
      | none => (.error (.unknownName name), w)
      | some id =>
        match w.telemetry.exporters[id]? with
        | some e => (.ok (id, e), w)
        | none => (.error (.unknownName name), w) := by
  unfold exporterNamed
  rw [bind_apply, named_apply]
  cases Assoc.get? w.exporters name with
  | none => rfl
  | some id =>
    dsimp only
    rw [bind_apply, show (get : Action State) w = (.ok w, w) from rfl]
    dsimp only
    cases w.telemetry.exporters[id]? <;> rfl

theorem readsOnly_exporterNamed (name : String) : ReadsOnly (exporterNamed name) := by
  intro w
  rw [exporterNamed_apply]
  split
  · rfl
  · split <;> rfl

theorem exporterNamed_ok {name : String} {w w' : State} {id : Nat} {e : Exporter}
    (h : exporterNamed name w = (.ok (id, e), w')) : w.telemetry.exporters[id]? = some e := by
  rw [exporterNamed_apply] at h
  split at h
  · cases h
  · split at h
    · rename_i hExporter
      cases h
      exact hExporter
    · cases h

theorem keeps_clearExporter (name : String) : Keeps C (clearExporter name) := by
  intro w h
  refine (readsOnly_exporterNamed name).leaves h fun x hRan => ?_
  obtain ⟨id, e⟩ := x
  have hExporter : w.telemetry.exporters[id]? = some e := exporterNamed_ok hRan
  have hCleared : w.telemetry.exporters.set id e.cleared =
      w.telemetry.exporters.modify id Exporter.cleared := by
    apply List.ext_getElem?
    intro j
    rw [List.getElem?_modify, List.getElem?_set]
    obtain ⟨hLt, -⟩ := List.getElem?_eq_some_iff.1 hExporter
    by_cases hj : id = j
    · subst hj
      rw [if_pos rfl, if_pos hLt, hExporter]
      simp
    · simp [hj]
  show Backed C { w with telemetry :=
    { w.telemetry with exporters := w.telemetry.exporters.set id e.cleared } }
  rw [hCleared]
  exact h.act (a := .clear id) fun _ => rfl

theorem keeps_handedSince (name : String) : Keeps C (handedSince name) := by
  refine (readsOnly_exporterNamed name).keeps.bind ?_
  rintro ⟨id, e⟩ w ⟨E, h⟩
  exact ⟨E, { h with }⟩

theorem backed_nameProvider {E : Estate} {w : State} (h : BackedBy C E w) (name : String) {id : Nat}
    (hid : E.Backs (.provider id)) : Backed C (nameProvider name id w) :=
  Backed.settle ⟨E, { h with providers := h.providers.insert _ hid }⟩

/-- A provider that is made comes with the name as its handle. -/
theorem leaves_addProvider {w : State} (h : Backed C w) (target : String) {plan : ProviderPlan}
    (hPlan : ∀ e ∈ plan.exporters, e < w.telemetry.exporters.length) :
    Leaves C (addProvider target plan) w := by
  obtain ⟨E, hE⟩ := h
  have hAll : plan.exporters.all (· < w.telemetry.exporters.length) = true := by
    simpa using hPlan
  have hOpen : (Telemetry.Act.provider plan w.environment).isOpenTo E.held = true := rfl
  have hMade : w.telemetry.after (.provider plan w.environment) =
      (w.telemetry.addPlanned plan w.environment).1 := if_pos hAll
  have hNew : (w.telemetry.newProvider? (.provider plan w.environment)).isSome = true := by
    simp [Telemetry.newProvider?, hAll]
  have hNumber : (w.telemetry.addPlanned plan w.environment).2 = w.telemetry.providers.length := by
    unfold Telemetry.addPlanned
    dsimp only
    rw [Telemetry.foldl_report]
    rfl
  have hAct := hE.act hOpen
  have hBacks := hE.backs_newProvider hOpen hNew
  rw [hMade] at hAct
  rw [← hNumber] at hBacks
  exact backed_nameProvider hAct target hBacks

/-- What exporters are read by name are there. -/
theorem leaves_exporters {E : Estate} {w : State} {next : List Nat → Action γ}
    {names : List String} (h : BackedBy C E w)
    (hNext : ∀ ids, (∀ e ∈ ids, e < w.telemetry.exporters.length) → Leaves C (next ids) w) :
    Leaves C (names.mapM (named World.exporters) >>= next) w := by
  induction names generalizing next with
  | nil => exact hNext [] (fun _ he => nomatch he)
  | cons name rest ih =>
    rw [List.mapM_cons, bind_assoc]
    refine leaves_named ⟨E, h⟩ fun id hid => ?_
    rw [bind_assoc]
    refine ih fun ids hids => hNext (id :: ids) fun e he => ?_
    rcases List.mem_cons.1 he with rfl | hRest
    · exact h.exporters.of_get? hid
    · exact hids e hRest

theorem keeps_makeProvider (target : String) (parts : ProviderSteps) (described : Bool) :
    Keeps C (makeProvider target parts described) := by
  rintro w ⟨E, h⟩
  refine leaves_exporters h fun ids hids => ?_
  refine (readsOnly_ask _).leaves ⟨E, h⟩ fun descriptions _ => ?_
  exact leaves_bind (leaves_addProvider ⟨E, h⟩ target hids) fun _ => (readsOnly_pure _).keeps

theorem keeps_makeStandardProvider (target : String) : Keeps C (makeStandardProvider target) := by
  intro w h
  refine (readsOnly_ask _).leaves h fun description _ => ?_
  exact leaves_bind (leaves_addProvider h target (fun _ he => nomatch he))
    fun _ => (readsOnly_pure _).keeps

theorem keeps_copyProvider (target name : String) : Keeps C (copyProvider target name) := by
  rintro w ⟨E, h⟩
  exact leaves_named ⟨E, h⟩ fun id hid => backed_nameProvider h target (h.providers.of_get? hid)

/-- What a provider is asked that has a name, its estate is asked. -/
theorem onProvider_of_get? {E : Estate} {w : State} {name : String} {p : Nat}
    (h : BackedBy C E w) (hGet : Assoc.get? w.providers name = some p)
    {act : Telemetry → Nat → Telemetry × Except ExportError Unit} {a : Telemetry.Act}
    (hAct : ∀ t, (act t p).1 = t.after a)
    (hOpen : p ∈ reachedProviders E.held → a.isOpenTo E.held = true)
    (hAsked : ∀ q, a = .shutdown q → C.asked q) :
    ∃ w', onProvider name act w = (.ok (.answered (act E.telemetry p).2), w') ∧
      BackedBy C (E.step (.act a)) w' := by
  have hReached : p ∈ reachedProviders E.held := (h.providers.of_get? hGet).provider p rfl
  have hAfter := h.act (hOpen hReached) hAsked
  rw [← hAct] at hAfter
  refine ⟨_, ?_, hAfter⟩
  rw [onProvider, bind_apply, named_apply, hGet, ← h.telemetry]
  rfl

/-- A step that shuts a provider down is an act of the estate. -/
theorem shutdown_of_get? {E : Estate} {w : State} {name : String} {p : Nat}
    (h : BackedBy C E w) (hGet : Assoc.get? w.providers name = some p) (hAsked : C.asked p) :
    ∃ w', onProvider name Telemetry.shutdown w =
        (.ok (.answered (E.telemetry.shutdown p).2), w') ∧
      BackedBy C (E.step (.act (.shutdown p))) w' := by
  refine onProvider_of_get? h hGet (fun _ => rfl) (fun hReached => ?_) ?_
  · simpa [Telemetry.Act.isOpenTo] using hReached
  · rintro _ ⟨⟩
    exact hAsked

/-- So is one that flushes a provider. -/
theorem flush_of_get? {E : Estate} {w : State} {name : String} {p : Nat}
    (h : BackedBy C E w) (hGet : Assoc.get? w.providers name = some p) :
    ∃ w', onProvider name Telemetry.flush w =
        (.ok (.answered (E.telemetry.flush p).2), w') ∧
      BackedBy C (E.step (.act (.flush p))) w' :=
  onProvider_of_get? h hGet (fun _ => rfl) (fun _ => rfl) nofun

theorem leaves_onProvider {w : State} (hw : Backed C w) (name : String)
    (act : Telemetry → Nat → Telemetry × Except ExportError Unit)
    (h : ∀ p, Assoc.get? w.providers name = some p → Backed C (onProvider name act w).2) :
    Leaves C (onProvider name act) w := by
  cases hGet : Assoc.get? w.providers name with
  | some p => exact h p hGet
  | none =>
    rw [Leaves, onProvider, bind_apply, named_apply, hGet]
    exact hw

theorem keeps_flush (name : String) : Keeps C (onProvider name Telemetry.flush) := by
  rintro w ⟨E, h⟩
  refine leaves_onProvider ⟨E, h⟩ name _ fun p hGet => ?_
  obtain ⟨w', hRan, hAfter⟩ := flush_of_get? h hGet
  rw [hRan]
  exact ⟨_, hAfter⟩

theorem leaves_shutdown {w : State} (hw : Backed C w) {name : String}
    (hAsked : ∀ p, Assoc.get? w.providers name = some p → C.asked p) :
    Leaves C (onProvider name Telemetry.shutdown) w := by
  obtain ⟨E, h⟩ := hw
  refine leaves_onProvider ⟨E, h⟩ name _ fun p hGet => ?_
  obtain ⟨w', hRan, hAfter⟩ := shutdown_of_get? h hGet (hAsked p hGet)
  rw [hRan]
  exact ⟨_, hAfter⟩

theorem keeps_makeTracer (target provider name : String) :
    Keeps C (makeTracer target provider name) := by
  rintro w ⟨E, h⟩
  refine leaves_named ⟨E, h⟩ fun id hid => ?_
  exact Backed.settle
    ⟨E, { h with tracers := h.tracers.insert target ((h.providers.of_get? hid).tracer name) }⟩

/-- Starting a span takes a handle to the provider, which a tracer is, and brings one to the
span. -/
theorem backedBy_start {E : Estate} {w : State} (h : BackedBy C E w) {tracer : Tracer}
    (hTracer : E.Backs (.tracer tracer)) (name : String) (cx : Context) :
    ∃ E', BackedBy C E' { w with telemetry := (w.telemetry.start tracer name cx).1 } ∧
      E'.Backs (.span (w.telemetry.start tracer name cx).2) ∧ ∀ x, E.Backs x → E'.Backs x := by
  have hOpen : (Telemetry.Act.start tracer name cx).isOpenTo E.held = true := by
    simpa [Telemetry.Act.isOpenTo] using hTracer.provider tracer.provider rfl
  have hNumber : (w.telemetry.start tracer name cx).2 = w.telemetry.spans.length := by
    unfold Telemetry.start
    split
    · rfl
    · split <;> rfl
  refine ⟨_, h.act hOpen, ?_, fun x hx => BackedBy.backs_act hOpen hx⟩
  rw [hNumber]
  exact h.backs_newSpan hOpen rfl

theorem keeps_startSpan (flow : Nat) (target tracer name : String) (cx? : Option String) :
    Keeps C (startSpan flow target tracer name cx?) := by
  rintro w ⟨E, h⟩
  refine leaves_named ⟨E, h⟩ fun tracer hTracer => leaves_contextOr h fun cx _ => ?_
  obtain ⟨E', h', hSpan, -⟩ := backedBy_start h (h.tracers.of_get? hTracer) name cx
  exact h'.nameSpan target hSpan

section InSpan

variable {run : Runner} (hRun : ∀ flow body, Keeps C (run flow body))
include hRun

theorem leaves_runInside {E : Estate} {w : State} {inner : Context} (h : BackedBy C E w)
    (hInner : E.Backs (.context inner)) (flow : Nat) (body : Body) (target? : Option String) :
    Leaves C (runInside run flow inner body target?) w := by
  have hEnd : Keeps C (passOn fun t => t.callActive inner.activeSpan (.finish t.now)) :=
    keeps_passOn (a := fun t => .callActive inner.activeSpan (.finish t.now)) (fun _ => rfl)
      fun _ _ => rfl
  have hBody : Keeps C (do
      let ran ← run flow body
      if ran.failure?.isNone then
        passOn fun t => t.callActive inner.activeSpan (.finish t.now)
      return ran : Action Run) := by
    refine (hRun flow body).bind fun ran => ?_
    split
    · exact hEnd.bind fun _ => (readsOnly_pure _).keeps
    · exact (readsOnly_pure _).keeps
  have hOpened := (h.pin hInner).openGuard flow hInner
  refine leaves_keeping (leaves_under ?_)
  cases target? with
  | none => exact hBody _ ⟨E, hOpened⟩
  | some target =>
    exact leaves_bind (leaves_map (leaves_storeContext hOpened target hInner)) fun _ => hBody

/-- Running a body inside a span keeps a session backed. -/
theorem keeps_inSpan (flow : Nat) (tracer name : String) (body : Body)
    (target? : Option String) : Keeps C (inSpan run flow tracer name body target?) := by
  rintro w ⟨E, h⟩
  refine leaves_named ⟨E, h⟩ fun tracer hGet => leaves_contextOr h fun cx hcx => ?_
  have hTracer := h.tracers.of_get? hGet
  refine leaves_keeping (leaves_change ?_)
  obtain ⟨E', h', hSpan, hMore⟩ := backedBy_start (h.pin hTracer) hTracer name cx
  exact leaves_runInside hRun h'.fresh (backs_withSpan (hMore _ hcx) hSpan _ _) flow body target?

end InSpan

/-- What a step lets go, its estate hands on no longer. -/
theorem release_backedBy {E : Estate} {w : State} (h : BackedBy C E w) (kind : HeldKind)
    (name : String) :
    ∃ present w', release kind name w = (.ok (.flag present), w') ∧
      BackedBy C (E.step (.hand w'.holdings)) w' := by
  have hSettled : ∀ {v : State} (present : Bool), BackedBy C E v → ∃ there w',
      ((.ok (.flag present), v.settle) : Except Halt Result × State) = (.ok (.flag there), w') ∧
        BackedBy C (E.step (.hand w'.holdings)) w' :=
    fun present hv => ⟨present, _, rfl, hv.settle⟩
  cases kind with
  | context =>
    exact hSettled (v := { w with contexts := Assoc.erase w.contexts name }) _
      { h with contexts := h.contexts.erase name }
  | span =>
    exact hSettled (v := { w with spans := Assoc.erase w.spans name }) _
      { h with spans := h.spans.erase name }
  | tracer =>
    exact hSettled (v := { w with tracers := Assoc.erase w.tracers name }) _
      { h with tracers := h.tracers.erase name }
  | provider =>
    exact hSettled (v := { w with providers := Assoc.erase w.providers name }) _
      { h with providers := h.providers.erase name }
  | work =>
    exact hSettled (v := { w with works := Assoc.erase w.works name }) _
      { h with works := h.works.erase name }
  | future =>
    exact hSettled (v := { w with futures := Assoc.erase w.futures name }) _
      { h with futures := h.futures.erase name }

theorem keeps_release (kind : HeldKind) (name : String) : Keeps C (release kind name) := by
  rintro w ⟨E, h⟩
  obtain ⟨present, w', hRan, hAfter⟩ := release_backedBy h kind name
  rw [Leaves, hRan]
  exact ⟨_, hAfter⟩

end SpanFlow.Script
