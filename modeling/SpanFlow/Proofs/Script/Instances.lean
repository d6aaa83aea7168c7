import SpanFlow.Proofs.Script.Lasting
import SpanFlow.Proofs.Session.Instances

/-!
# Scripts derive new instances

Whatever a script does, the contexts of its session are drawn from such as were made one after the
other, and numbers from the supply have not been used. Most steps put contexts where there were none
before but make none. Those that derive one take a number for it from the supply.

So the identity of contexts, which is what derivations of contexts that were made give back, is that
of every session.

## Main results

* `keepsDrawn_perform`: what bodies leave of the contexts of a session, steps leave of it.
* `drawn_run`: the contexts of a session that a script comes to.
* `shared_identity`: when a derivation gives back the context itself, and that sessions derive so.
-/

namespace SpanFlow.Script

open Session Context

variable {α γ : Type}

/-- A change leaves the contexts of a session drawn from such as were made. -/
def KeepsDrawn (w w' : State) : Prop := Drawn w → Drawn w'

instance : IsPreorder State KeepsDrawn where
  refl _ := id
  trans _ _ _ h h' := h' ∘ h

/-! ## Rules -/

section Rules

variable {made : List Context} {w : State} {act : Action α}

theorem relates_of_drawnFrom (h : ∀ w made, DrawnFrom made w → Leads KeepsDrawn act w) :
    Relates KeepsDrawn act := by
  rintro w ⟨made, hw⟩
  exact h w made hw ⟨made, hw⟩

theorem reads_contextOr (h : DrawnFrom made w) (flow : Nat) (cx? : Option String) :
    Reads (· ∈ made) (contextOr flow cx?) w := by
  cases cx? with
  | none => exact ⟨rfl, fun _ hRan => by cases hRan; exact h.current_mem flow⟩
  | some name => exact .named h.contexts name

theorem reads_optional (h : DrawnFrom made w) (cx? : Option String) :
    Reads (∀ cx ∈ ·, cx ∈ made) (cx?.mapM (named World.contexts)) w := by
  cases cx? with
  | none => exact .pure fun _ hNone => nomatch hNone
  | some name =>
    rw [Option.mapM_some, map_eq_pure_bind]
    refine (Reads.named h.contexts name).bind fun cx hcx => .pure fun other hOther => ?_
    cases hOther
    exact hcx

theorem leads_ask {next : α → Action γ} {f : State → α} (h : Leads KeepsDrawn (next (f w)) w) :
    Leads KeepsDrawn (ask f >>= next) w := h

/-- Naming a context that was made. -/
theorem drawn_storeContext (h : DrawnFrom made w) (target : String) {cx : Context}
    (hcx : cx ∈ made) : Drawn (storeContext target cx w).2 :=
  ⟨made, { h with contexts := h.contexts.insert _ hcx }⟩

/-- Naming a context that is derived under the next number. -/
theorem drawn_storeDerived (h : DrawnFrom made w) (target : String) {cx : Context} (hcx : cx ∈ made)
    {d : Derivation} (hid : d.id = w.supply) (hHeld : d.binding.allocation ≤ w.supply) :
    Drawn (storeContext target (d.apply cx) w.fresh.2).2 := by
  obtain ⟨made', h', hMem⟩ := h.derive hcx hid hHeld
  exact drawn_storeContext h' target hMem

theorem drawn_attach (h : DrawnFrom made w) (flow : Nat) {cx : Context} (hcx : cx ∈ made)
    (guard : String) : Drawn (attach flow cx guard w).2 :=
  ⟨made, { h.openGuard flow hcx with }⟩

theorem drawn_under (hAct : Relates KeepsDrawn act) (h : DrawnFrom made w) (flow : Nat)
    {cx : Context} (hcx : cx ∈ made) : Drawn (under flow cx act w).2 :=
  (hAct _ ⟨made, h.openGuard flow hcx⟩).closeGuard flow _

theorem drawn_underOptional (hAct : Relates KeepsDrawn act) (h : DrawnFrom made w) (flow : Nat)
    {cx? : Option Context} (hcx : ∀ cx ∈ cx?, cx ∈ made) :
    Drawn (underOptional flow cx? act w).2 := by
  cases cx? with
  | none => exact hAct w ⟨made, h⟩
  | some cx => exact drawn_under hAct h flow (hcx cx rfl)

theorem drawn_closeScope (h : Drawn w) (flow guard : Nat) : Drawn (closeScope flow guard w) := by
  have hTaken : Drawn (w.modifyFlow flow fun f =>
      { f with scopes := f.scopes.filter fun s => s.guard != guard }) := by
    obtain ⟨made, h⟩ := h
    exact ⟨made, { h with }⟩
  exact hTaken.closeGuard flow guard

theorem keepsDrawn_onNewFlow {act : Nat → Action α} (hAct : ∀ flow, Relates KeepsDrawn (act flow)) :
    Relates KeepsDrawn (onNewFlow act) := by
  rintro w ⟨made, h⟩
  exact (hAct _ _ ⟨made, h.beginFlow⟩).endFlow _

theorem drawn_bind {act : Action α} {next : α → Action γ} (h : Drawn (act w).2)
    (hNext : ∀ a, Relates KeepsDrawn (next a)) : Drawn ((act >>= next) w).2 := by
  rw [bind_apply]
  rcases hRan : act w with ⟨halt | a, w'⟩ <;> rw [hRan] at h
  · exact h
  · exact hNext a w' h

theorem drawn_modify {f : State → State} {next : Unit → Action γ} (h : Drawn (next () (f w)).2) :
    Drawn ((modify f >>= next) w).2 := h

end Rules

/-! ## Steps that make no context -/

theorem keepsDrawn_freshNumber : Relates KeepsDrawn freshNumber := by
  rintro w ⟨made, h⟩
  exact ⟨made, h.fresh⟩

theorem keepsDrawn_makeKey (target name : String) : Relates KeepsDrawn (makeKey target name) :=
  keepsDrawn_freshNumber.bind fun _ => relates_change fun _ ⟨made, h⟩ => ⟨made, { h with }⟩

/-- A text that is shared is allocated under the next number. -/
theorem keepsDrawn_share (target value : String) : Relates KeepsDrawn (share target value) := by
  rintro w ⟨made, h⟩
  exact ⟨made, { h.fresh with shared := h.fresh.shared.insert target (Nat.lt_succ_self w.supply) }⟩

theorem keepsDrawn_passOn (act : Telemetry → Telemetry × Option String) :
    Relates KeepsDrawn (passOn act) := by
  refine (relates_change fun _ ⟨made, h⟩ => ⟨made, { h with }⟩).bind fun failure? => ?_
  cases failure? with
  | none => exact (readsOnly_pure _).relates
  | some message => exact (readsOnly_throw _).relates

theorem keepsDrawn_callOn (flow : Nat) (on : Target) (call : Timestamp → SpanCall) :
    Relates KeepsDrawn (callOn flow on call) := by
  have hAfter : Relates KeepsDrawn (do return .recording (← isRecording flow on) : Action Result) :=
    ((readsOnly_isRecording flow on).bind fun _ => readsOnly_pure _).relates
  cases on with
  | named name =>
    exact (readsOnly_named _ name).relates.bind fun _ => (keepsDrawn_passOn _).bind fun _ => hAfter
  | carried cx =>
    exact (readsOnly_carriedBy flow _).relates.bind fun _ =>
      (keepsDrawn_passOn _).bind fun _ => hAfter
  | active =>
    exact (readsOnly_carriedBy flow _).relates.bind fun _ =>
      (keepsDrawn_passOn _).bind fun _ => hAfter

theorem keepsDrawn_putCarrier (name : String) (c : Carrier) :
    Relates KeepsDrawn (putCarrier name c) :=
  relates_change fun _ ⟨made, h⟩ => ⟨made, { h with }⟩

theorem keepsDrawn_inject (flow : Nat) (propagator? : Option String) (carrier : String)
    (cx? : Option String) : Relates KeepsDrawn (inject flow propagator? carrier cx?) :=
  (readsOnly_propagatorOr propagator?).relates.bind fun _ =>
    (readsOnly_named _ carrier).relates.bind fun _ =>
      (readsOnly_contextOr flow cx?).relates.bind fun _ => keepsDrawn_putCarrier _ _

theorem keepsDrawn_addProvider (target : String) (plan : ProviderPlan) :
    Relates KeepsDrawn (addProvider target plan) :=
  relates_modify fun _ ⟨made, h⟩ => ⟨made, { h with }⟩

theorem keepsDrawn_makeProvider (target : String) (parts : ProviderSteps) (described : Bool) :
    Relates KeepsDrawn (makeProvider target parts described) :=
  (readsOnly_exportersNamed parts.exporters).relates.bind fun _ =>
    (readsOnly_ask _).relates.bind fun _ => (keepsDrawn_addProvider target _).bind fun _ =>
      (readsOnly_pure _).relates

theorem keepsDrawn_onProvider (name : String)
    (act : Telemetry → Nat → Telemetry × Except ExportError Unit) :
    Relates KeepsDrawn (onProvider name act) :=
  (readsOnly_named _ name).relates.bind fun _ =>
    relates_change fun _ ⟨made, h⟩ => ⟨made, { h with }⟩

theorem keepsDrawn_release (kind : HeldKind) (name : String) :
    Relates KeepsDrawn (release kind name) := by
  refine relates_change fun w ⟨made, h⟩ => ⟨made, ?_⟩
  cases kind with
  | context => exact { h with contexts := h.contexts.erase name }
  | work => exact { h with works := h.works.erase name }
  | future => exact { h with futures := h.futures.erase name }
  | span | tracer | provider => exact { h with }

/-! ## Steps that derive contexts -/

theorem keepsDrawn_bind (flow : Nat) (target : String) (cx? : Option String) (key value : String) :
    Relates KeepsDrawn (bind flow target cx? key value) :=
  relates_of_drawnFrom fun w _ h => (reads_contextOr h flow cx?).leads fun _ hcx =>
    leads_named fun k _ _ => drawn_storeDerived h target hcx
      (d := .value w.supply k.id (.text value)) rfl (Nat.le_refl _)

theorem keepsDrawn_bindShared (target cx key shared : String) :
    Relates KeepsDrawn (bindShared target cx key shared) :=
  relates_of_drawnFrom fun w _ h => leads_named fun _ hcx => leads_named fun k _ =>
    leads_named fun b hb _ => drawn_storeDerived h target (h.contexts.of_get? hcx)
      (d := .shared w.supply k.id b) rfl (Nat.le_of_lt (h.shared.of_get? hb))

theorem keepsDrawn_makeRemote (target cx : String) (sc : SpanContext) :
    Relates KeepsDrawn (makeRemote target cx sc) :=
  relates_of_drawnFrom fun w _ h => leads_named fun _ hcx _ =>
    drawn_storeDerived h target (h.contexts.of_get? hcx) (d := .remote w.supply sc) rfl
      (Nat.le_refl _)

theorem leads_takeSpan {next : ActiveSpan → Action γ} {name : String} {w : State}
    {made : List Context} (h : DrawnFrom made w)
    (hNext : ∀ active w', DrawnFrom made w' → Drawn (next active w').2) :
    Leads KeepsDrawn (takeSpan name >>= next) w := by
  unfold takeSpan
  rw [bind_assoc]
  exact leads_named fun _ _ _ => hNext _ _ { h with }

theorem keepsDrawn_withSpan (flow : Nat) (target : String) (cx? : Option String) (span : String) :
    Relates KeepsDrawn (withSpan flow target cx? span) :=
  relates_of_drawnFrom fun _ _ h => (reads_contextOr h flow cx?).leads fun _ hcx =>
    leads_takeSpan h fun active w' h' =>
      drawn_storeDerived h' target hcx (d := .span w'.supply active) rfl (Nat.le_refl _)

theorem keepsDrawn_markActive (flow : Nat) (guard span : String) :
    Relates KeepsDrawn (markActive flow guard span) := by
  refine relates_of_drawnFrom fun _ _ h => (reads_contextOr h flow none).leads fun cx hcx =>
    leads_takeSpan h fun active w' h' => ?_
  obtain ⟨made', hNew, hMem⟩ :=
    h'.derive hcx (d := .span w'.supply active) rfl (Nat.le_refl _)
  exact drawn_attach hNew flow hMem guard

/-! ### Propagators -/

theorem hereditary_derives : Hereditary Propagator.Derives where
  noop := Propagator.derives_noop
  jaeger := Propagator.derives_jaeger
  ofKey := Propagator.derives_ofKey
  composite := Propagator.derives_composite

theorem keepsDrawn_namePropagator (target : String) (plan : PropagatorPlan) (described : Bool) :
    Relates KeepsDrawn (namePropagator target plan described) := by
  refine relates_of_drawnFrom fun w made h => ?_
  refine (hereditary_derives.reads h.propagators plan).leads fun p hp => ?_
  exact fun _ => ⟨made, { h with propagators := h.propagators.insert target hp }⟩

theorem keepsDrawn_setGlobal (plan : PropagatorPlan) : Relates KeepsDrawn (setGlobal plan) := by
  refine relates_of_drawnFrom fun w made h => ?_
  refine (hereditary_derives.reads h.propagators plan).leads fun p hp => ?_
  exact fun _ => ⟨made, { h with global := hp }⟩

theorem keepsDrawn_extract (flow : Nat) (target : String) (propagator? : Option String)
    (carrier : String) (cx? : Option String) :
    Relates KeepsDrawn (extract flow target propagator? carrier cx?) := by
  refine relates_of_drawnFrom fun w made h => ?_
  refine (reads_propagatorOr h.propagators h.global propagator?).leads fun p hp => ?_
  refine leads_named fun c _ => (reads_contextOr h flow cx?).leads fun cx hcx _ => ?_
  obtain ⟨hLater, made', hMade, hMore, hMem⟩ := hp c.extractor cx w.supply made h.upwards hcx
  have hRead := h.grow hLater hMade hMore
  have hReported : DrawnFrom made' ((p.extract c.extractor cx w.supply).reports.foldl World.report
      { w with supply := (p.extract c.extractor cx w.supply).next }) := by
    rw [foldl_report_eq]
    exact { hRead with }
  exact drawn_storeContext hReported target hMem

/-! ## Work -/

theorem keepsDrawn_makeExecutor (target : String) (cx? : Option String) (mode : RunMode) :
    Relates KeepsDrawn (makeExecutor target cx? mode) := by
  refine relates_of_drawnFrom fun w made h => (reads_optional h cx?).leads fun context? hcx _ => ?_
  cases context? with
  | none => exact ⟨made, { h with executors := h.executors.insert target hcx }⟩
  | some cx => exact ⟨made, { h with executors := h.executors.insert target hcx }⟩

theorem keepsDrawn_takeOff (kind : CarriedKind) (name : String) :
    Relates KeepsDrawn (takeOff kind name) := by
  have hNone : ∀ {made : List Context}, ∀ cx ∈ (none : Option Context), cx ∈ made :=
    fun _ hcx => nomatch hcx
  cases kind with
  | future =>
    exact relates_of_drawnFrom fun _ made h => leads_named fun _ _ _ =>
      ⟨made, { h with futures := h.futures.insert name hNone }⟩
  | stream =>
    exact relates_of_drawnFrom fun _ made h => leads_named fun _ _ _ =>
      ⟨made, { h with streams := h.streams.insert name hNone }⟩
  | sink =>
    exact relates_of_drawnFrom fun _ made h => leads_named fun _ _ _ =>
      ⟨made, { h with sinks := h.sinks.insert name hNone }⟩

section Taking

variable {w : State} {made : List Context} (h : DrawnFrom made w)
include h

theorem drawnFrom_modifyFuture (name : String) {f : Future Body → Future Body}
    (hf : ∀ x, (f x).context? = x.context?) : DrawnFrom made (modifyFuture name f w) := by
  unfold modifyFuture
  split
  · rename_i x hx
    refine { h with futures := h.futures.insert name ?_ }
    rw [hf]
    exact h.futures.of_get? hx
  · exact h

theorem drawnFrom_modifyStream (name : String) {f : Stream Body → Stream Body}
    (hf : ∀ x, (f x).context? = x.context?) : DrawnFrom made (modifyStream name f w) := by
  unfold modifyStream
  split
  · rename_i x hx
    refine { h with streams := h.streams.insert name ?_ }
    rw [hf]
    exact h.streams.of_get? hx
  · exact h

end Taking

/-! ### Running bodies -/

section Running

variable {run : Runner} (hRun : ∀ flow body, Relates KeepsDrawn (run flow body))
include hRun

theorem keepsDrawn_callWork (flow : Nat) (name : String) :
    Relates KeepsDrawn (callWork run flow name) := by
  refine relates_of_drawnFrom fun w made h => leads_named fun work hGet => ?_
  have hcx : work.context ∈ made := h.works.of_get? hGet
  have hBody := hRun flow work.body
  split
  · have hTaken : DrawnFrom made { w with works := Assoc.erase w.works name } :=
      { h with works := h.works.erase name }
    exact fun _ => drawn_under hBody hTaken flow hcx
  · exact fun _ => (drawn_under hBody (h.pinContext hcx) flow hcx).unpin _

theorem keepsDrawn_callTogether (name : String) (count : Nat) :
    Relates KeepsDrawn (callTogether run name count) := by
  induction count with
  | zero => exact (readsOnly_pure _).relates
  | succ count ih =>
    exact (keepsDrawn_onNewFlow fun flow => keepsDrawn_callWork hRun flow name).bind fun _ =>
      ih.bind fun _ => (readsOnly_pure _).relates

theorem drawn_runMode (flow : Nat) (mode : RunMode) {cx : Context} (body : Body) {w : State}
    {made : List Context} (h : DrawnFrom made w) (hcx : cx ∈ made) :
    Leads KeepsDrawn (match mode with
      | .inline => keeping (.context cx) (under flow cx (run flow body))
      | .thread => keeping (.context cx) (onNewFlow fun other => under other cx (run other body))
      | .queue => do
        modify fun w => { w with queue := w.queue ++ [(cx, body)] }
        return .none) w := by
  intro _
  cases mode with
  | inline => exact (drawn_under (hRun flow body) (h.pinContext hcx) flow hcx).unpin _
  | thread =>
    exact ((drawn_under (hRun _ body) (h.pinContext hcx).beginFlow _ hcx).endFlow _).unpin _
  | queue =>
    refine ⟨made, { h with queue := fun x hx => ?_ }⟩
    rcases List.mem_append.1 hx with hOld | hNew
    · exact h.queue x hOld
    · obtain rfl := List.mem_singleton.1 hNew
      exact hcx

theorem keepsDrawn_execute (flow : Nat) (name : String) (body : Body) :
    Relates KeepsDrawn (execute run flow name body) := by
  refine relates_of_drawnFrom fun w made h => leads_named fun executor hGet => ?_
  have hcx := h.executors.of_get? hGet
  cases hContext : executor.context? with
  | none =>
    exact leads_ask (drawn_runMode hRun flow executor.mode body h (h.current_mem flow))
  | some cx => exact drawn_runMode hRun flow executor.mode body h (hcx cx hContext)

theorem keepsDrawn_runQueue (flow fuel : Nat) : Relates KeepsDrawn (runQueue run flow fuel) := by
  induction fuel with
  | zero => exact (readsOnly_throw _).relates
  | succ fuel ih =>
    rintro w ⟨made, h⟩
    rcases hQueue : w.queue with _ | ⟨⟨cx, body⟩, rest⟩
    · rw [runQueue_nil run flow fuel hQueue]
      exact ⟨made, h⟩
    · rw [runQueue_cons run flow fuel hQueue]
      obtain ⟨hcx, hRest⟩ := List.forall_mem_cons.1 (hQueue ▸ h.queue)
      have hTaken : DrawnFrom made { w with queue := rest } := { h with queue := hRest }
      exact drawn_bind (drawn_under (hRun flow body) hTaken flow hcx) fun _ =>
        ih.bind fun _ => (readsOnly_pure _).relates

theorem keepsDrawn_poll (flow : Nat) (name : String) : Relates KeepsDrawn (poll run flow name) := by
  refine relates_of_drawnFrom fun w made h => leads_named fun future hGet => ?_
  have hcx := h.futures.of_get? hGet
  split
  · exact fun _ => drawn_bind (drawn_underOptional (readsOnly_pure _).relates h flow hcx) fun _ =>
      (readsOnly_pure _).relates
  · rename_i body rest _
    have hTaken :=
      drawnFrom_modifyFuture h name (f := fun x => { x with rest := rest }) fun _ => rfl
    have hRan := drawn_underOptional (hRun flow body) hTaken flow hcx
    refine fun _ => drawn_modify (drawn_bind hRan fun ran => ?_)
    split
    · exact (readsOnly_pure _).relates
    · refine (relates_modify fun w' ⟨made', h'⟩ => ?_).bind fun _ => (readsOnly_pure _).relates
      exact ⟨made', drawnFrom_modifyFuture h' name fun _ => rfl⟩

theorem keepsDrawn_pollNext (flow : Nat) (name : String) :
    Relates KeepsDrawn (pollNext run flow name) := by
  refine relates_of_drawnFrom fun w made h => leads_named fun stream hGet => ?_
  have hcx := h.streams.of_get? hGet
  split
  · exact fun _ => drawn_bind (drawn_underOptional (readsOnly_pure _).relates h flow hcx) fun _ =>
      (readsOnly_pure _).relates
  · rename_i item rest _
    have hTaken :=
      drawnFrom_modifyStream h name (f := fun x => { x with rest := rest }) fun _ => rfl
    have hRan := drawn_underOptional (hRun flow item.body) hTaken flow hcx
    refine fun _ => drawn_modify (drawn_bind hRan fun ran => ?_)
    split
    · exact (readsOnly_pure _).relates
    · refine (relates_modify fun w' ⟨made', h'⟩ => ?_).bind fun _ => (readsOnly_pure _).relates
      exact ⟨made', drawnFrom_modifyStream h' name fun _ => rfl⟩

theorem keepsDrawn_callSink (flow : Nat) (name : String) (call : SinkCall) :
    Relates KeepsDrawn (callSink run flow name call) := by
  refine relates_of_drawnFrom fun w made h => leads_named fun sink hGet => ?_
  have hcx := h.sinks.of_get? hGet
  have hSum : DrawnFrom made { w with
      sinks := Assoc.insert w.sinks name { sink with sum := sumAfter sink.sum call } } :=
    { h with sinks := h.sinks.insert name hcx }
  have hRan := drawn_underOptional (hRun flow sink.body) hSum flow hcx
  exact fun _ => drawn_modify (drawn_bind hRan fun _ => (readsOnly_pure _).relates)

theorem drawn_runInside (flow : Nat) {inner : Context} (body : Body) (target? : Option String)
    {w : State} {made : List Context} (h : DrawnFrom made w) (hInner : inner ∈ made) :
    Drawn (runInside run flow inner body target? w).2 := by
  have hRan : Relates KeepsDrawn (do
      let ran ← run flow body
      if ran.failure?.isNone then
        passOn fun t => t.callActive inner.activeSpan (.finish t.now)
      return ran : Action Run) := by
    refine (hRun flow body).bind fun ran => ?_
    split
    · exact (keepsDrawn_passOn _).bind fun _ => (readsOnly_pure _).relates
    · exact (readsOnly_pure _).relates
  have hOpen := (h.pinContext hInner).openGuard flow hInner
  refine ((?_ : Drawn _).closeGuard flow _).unpin _
  cases target? with
  | none => exact hRan _ ⟨made, hOpen⟩
  | some target => exact drawn_bind (drawn_storeContext hOpen target hInner) fun _ => hRan

/-- The span that is started is carried by a context that is derived under the next number. -/
theorem keepsDrawn_inSpan (flow : Nat) (tracer name : String) (body : Body)
    (target? : Option String) : Relates KeepsDrawn (inSpan run flow tracer name body target?) := by
  refine relates_of_drawnFrom fun w made h => leads_named fun t _ _ => ?_
  have hPinned := h.pin (x := .tracer t) fun _ hSame => nomatch hSame
  have hStarted : DrawnFrom made { (w.pin (.tracer t)).2 with
      telemetry := (w.telemetry.start t name (w.current flow)).1 } := { hPinned with }
  obtain ⟨made', hGiven, hInner⟩ := hStarted.derive (h.current_mem flow)
    (d := .span (w.supply + 1) ((w.telemetry.start t name (w.current flow)).1.activeSpan
      (w.telemetry.start t name (w.current flow)).2)) rfl (Nat.le_refl _)
  exact (drawn_runInside hRun flow body target? hGiven hInner).unpin w.supply

/-- **What bodies leave of the contexts of a session, steps leave of it.** -/
theorem keepsDrawn_perform (fuel flow : Nat) (s : Step) :
    Relates KeepsDrawn (perform run fuel flow s) := by
  cases s with
  | key target name => exact keepsDrawn_makeKey target name
  | copyKey target key =>
    exact (readsOnly_named _ key).relates.bind fun _ =>
      relates_change fun _ ⟨made, h⟩ => ⟨made, { h with }⟩
  | sameKey a b =>
    exact ((readsOnly_named _ a).bind fun _ => (readsOnly_named _ b).bind fun _ =>
      readsOnly_pure _).relates
  | describeKey key => exact ((readsOnly_named _ key).bind fun _ => readsOnly_pure _).relates
  | share target value => exact keepsDrawn_share target value
  | root target =>
    exact relates_of_drawnFrom fun _ _ h _ => drawn_storeContext h target h.upwards.root_mem
  | copy target cx =>
    exact relates_of_drawnFrom fun _ _ h => leads_named fun _ hcx _ =>
      drawn_storeContext h target (h.contexts.of_get? hcx)
  | bind target cx? key value => exact keepsDrawn_bind flow target cx? key value
  | bindShared target cx key shared => exact keepsDrawn_bindShared target cx key shared
  | current target =>
    exact relates_of_drawnFrom fun _ _ h _ => drawn_storeContext h target (h.current_mem flow)
  | read cx? key =>
    exact ((readsOnly_contextOr flow cx?).bind fun _ => (readsOnly_named _ key).bind fun _ =>
      readsOnly_pure _).relates
  | readAll cx => exact (readsOnly_readAll cx).relates
  | readShared cx key => exact (readsOnly_readShared cx key).relates
  | sameContext a b =>
    exact ((readsOnly_named _ a).bind fun _ => (readsOnly_named _ b).bind fun _ =>
      readsOnly_pure _).relates
  | size cx => exact ((readsOnly_named _ cx).bind fun _ => readsOnly_pure _).relates
  | describe cx => exact ((readsOnly_named _ cx).bind fun _ => readsOnly_pure _).relates
  | attach cx guard =>
    exact relates_of_drawnFrom fun _ _ h => leads_named fun _ hcx _ =>
      drawn_attach h flow (h.contexts.of_get? hcx) guard
  | close guard =>
    refine (readsOnly_scopeNamed flow guard).relates.bind fun s => relates_change fun _ h => ?_
    exact drawn_closeScope h flow s.guard
  | describeGuard guard => exact (readsOnly_describeGuard flow guard).relates
  | fail message => exact (readsOnly_throw _).relates
  | thread body =>
    exact (keepsDrawn_onNewFlow fun other => hRun other body).bind fun _ =>
      (readsOnly_pure _).relates
  | installStorage => exact (readsOnly_pure _).relates
  | wrap target cx? body once =>
    exact relates_of_drawnFrom fun _ made h => (reads_contextOr h flow cx?).leads fun _ hcx _ =>
      ⟨made, { h with works := h.works.insert target hcx }⟩
  | call work => exact (keepsDrawn_callWork hRun flow work).bind fun _ => (readsOnly_pure _).relates
  | callTogether work count =>
    exact (keepsDrawn_callTogether hRun work count).bind fun _ => (readsOnly_pure _).relates
  | executor target cx? mode => exact keepsDrawn_makeExecutor target cx? mode
  | execute executor body =>
    exact (keepsDrawn_execute hRun flow executor body).bind fun _ => (readsOnly_pure _).relates
  | runQueue => exact (keepsDrawn_runQueue hRun flow fuel).bind fun _ => (readsOnly_pure _).relates
  | future target cx? polls =>
    exact relates_of_drawnFrom fun _ made h => (reads_contextOr h flow cx?).leads fun _ hcx _ =>
      ⟨made, { h with futures :=
        h.futures.insert target fun _ hSame => Option.some.inj hSame ▸ hcx }⟩
  | poll future => exact keepsDrawn_poll hRun flow future
  | stream target cx? items =>
    exact relates_of_drawnFrom fun _ made h => (reads_contextOr h flow cx?).leads fun _ hcx _ =>
      ⟨made, { h with streams :=
        h.streams.insert target fun _ hSame => Option.some.inj hSame ▸ hcx }⟩
  | pollNext stream => exact keepsDrawn_pollNext hRun flow stream
  | sink target cx? body failing? =>
    exact relates_of_drawnFrom fun _ made h => (reads_contextOr h flow cx?).leads fun _ hcx _ =>
      ⟨made, { h with sinks := h.sinks.insert target fun _ hSame => Option.some.inj hSame ▸ hcx }⟩
  | callSink sink call => exact keepsDrawn_callSink hRun flow sink call
  | takeOff kind name => exact keepsDrawn_takeOff kind name
  | elapse now => exact relates_change fun _ ⟨made, h⟩ => ⟨made, { h with }⟩
  | request id => exact relates_change fun _ ⟨made, h⟩ => ⟨made, { h with }⟩
  | hostGet target =>
    exact relates_of_drawnFrom fun _ _ h _ => drawn_storeContext h target (h.slot_mem _)
  | hostSet cx =>
    exact relates_of_drawnFrom fun _ made h => leads_named fun _ hcx _ =>
      ⟨made, { h with slots := h.slots.insert _ (h.contexts.of_get? hcx) }⟩
  | inertSpan target sc => exact relates_change fun _ ⟨made, h⟩ => ⟨made, { h with }⟩
  | journaledSpan target sc => exact relates_change fun _ ⟨made, h⟩ => ⟨made, { h with }⟩
  | readJournal span =>
    exact (readsOnly_named _ span).relates.bind fun _ =>
      relates_change fun _ ⟨made, h⟩ => ⟨made, { h with }⟩
  | boxSpan span =>
    exact (readsOnly_named _ span).relates.bind fun _ =>
      relates_change fun _ ⟨made, h⟩ => ⟨made, { h with }⟩
  | remote target cx sc => exact keepsDrawn_makeRemote target cx sc
  | withSpan target cx? span => exact keepsDrawn_withSpan flow target cx? span
  | markActive guard span => exact keepsDrawn_markActive flow guard span
  | hasSpan cx => exact ((readsOnly_named _ cx).bind fun _ => readsOnly_pure _).relates
  | callSpan on call => exact keepsDrawn_callOn flow on call
  | isRecording on => exact ((readsOnly_isRecording flow on).bind fun _ => readsOnly_pure _).relates
  | spanContext on => exact ((readsOnly_identityOf flow on).bind fun _ => readsOnly_pure _).relates
  | describeSpan on => exact (readsOnly_describeOn flow on).relates
  | carrier target kind items => exact keepsDrawn_putCarrier target _
  | setCarrier carrier name value =>
    exact (readsOnly_named _ carrier).relates.bind fun _ => keepsDrawn_putCarrier _ _
  | readCarrier carrier name =>
    exact ((readsOnly_named _ carrier).bind fun _ => readsOnly_pure _).relates
  | describeAdapters => exact (readsOnly_pure _).relates
  | propagator target plan described => exact keepsDrawn_namePropagator target plan described
  | setGlobal plan => exact keepsDrawn_setGlobal plan
  | globalFields => exact ((readsOnly_ask _).bind fun _ => readsOnly_pure _).relates
  | inject propagator? carrier cx? => exact keepsDrawn_inject flow propagator? carrier cx?
  | extract target propagator? carrier cx? =>
    exact keepsDrawn_extract flow target propagator? carrier cx?
  | exporter target kind => exact relates_change fun _ ⟨made, h⟩ => ⟨made, { h with }⟩
  | stored exporter =>
    exact ((readsOnly_exporterNamed exporter).bind fun _ => readsOnly_pure _).relates
  | clear exporter =>
    exact (readsOnly_exporterNamed exporter).relates.bind fun _ =>
      relates_change fun _ ⟨made, h⟩ => ⟨made, { h with }⟩
  | handed exporter =>
    exact (readsOnly_exporterNamed exporter).relates.bind fun _ =>
      relates_change fun _ ⟨made, h⟩ => ⟨made, { h with }⟩
  | provider target parts described => exact keepsDrawn_makeProvider target parts described
  | standardProvider target =>
    exact (readsOnly_ask _).relates.bind fun _ => (keepsDrawn_addProvider target _).bind fun _ =>
      (readsOnly_pure _).relates
  | limitQueries provider =>
    exact ((readsOnly_named _ provider).bind fun _ => readsOnly_ask _).relates
  | copyProvider target provider =>
    exact (readsOnly_named _ provider).relates.bind fun _ =>
      relates_change fun _ ⟨made, h⟩ => ⟨made, { h with }⟩
  | flush provider => exact keepsDrawn_onProvider provider Telemetry.flush
  | shutdown provider => exact keepsDrawn_onProvider provider Telemetry.shutdown
  | tracer target provider name =>
    exact (readsOnly_named _ provider).relates.bind fun _ =>
      relates_change fun _ ⟨made, h⟩ => ⟨made, { h with }⟩
  | start target tracer name cx? =>
    exact (readsOnly_named _ tracer).relates.bind fun _ =>
      (readsOnly_contextOr flow cx?).relates.bind fun _ =>
        relates_change fun _ ⟨made, h⟩ => ⟨made, { h with }⟩
  | data span => exact ((readsOnly_named _ span).bind fun _ => readsOnly_ask _).relates
  | inSpan tracer name body target? =>
    exact (keepsDrawn_inSpan hRun flow tracer name body target?).bind fun _ =>
      (readsOnly_pure _).relates
  | release kind name => exact keepsDrawn_release kind name

end Running

/-! ## Runs -/

theorem keepsDrawn_performWith (fuel flow : Nat) (s : Step) :
    Relates KeepsDrawn (performWith fuel flow s) := fun _ hw =>
  preserved_performWith (fun _ h => h.takeLog) (fun flow guard _ h => drawn_closeScope h flow guard)
    (fun _ hRun => keepsDrawn_perform hRun) fuel flow s hw

/-- The contexts of a session that a script comes to are drawn from such as were made. -/
theorem drawn_run (fuel flow : Nat) (body : Body) (byRequest : Bool)
    (environment : Surroundings) :
    Drawn (runSteps (performWith fuel flow) flow body (World.initial byRequest environment)).2 :=
  preserved_runSteps (fun _ h => h.takeLog) (keepsDrawn_performWith fuel flow) flow body
    (drawn_initial byRequest environment)

section Binding

variable {w : State} {cx key : String} {c : Context} {k : Key}
  (hContext : Assoc.get? w.contexts cx = some c) (hKey : Assoc.get? w.keys key = some k)
include hContext hKey

/-- Binding a text derives under the next number. -/
theorem get?_contexts_bind (flow : Nat) (target value : String) :
    Assoc.get? (bind flow target (some cx) key value w).2.contexts target =
      some (c.withValue w.supply k.id (.text value)) := by
  rw [bind, bind_apply, contextOr, named_apply, hContext]
  dsimp only
  rw [bind_apply, named_apply, hKey]
  exact (Assoc.get?_insert _ _ _ _).trans (if_pos rfl)

/-- So does binding a text that is shared. -/
theorem get?_contexts_bindShared (target : String) {shared : String} {b : Binding}
    (hShared : Assoc.get? w.shared shared = some b) :
    Assoc.get? (bindShared target cx key shared w).2.contexts target =
      some (c.withShared w.supply k.id b) := by
  rw [bindShared, bind_apply, named_apply, hContext]
  dsimp only
  rw [bind_apply, named_apply, hKey]
  dsimp only
  rw [bind_apply, named_apply, hShared]
  exact (Assoc.get?_insert _ _ _ _).trans (if_pos rfl)

end Binding

/-- **When a derivation gives back the context itself.** After any chain of derivations a key has
the allocation that it was last bound to, in the chain or before it. Binding the key to this very
allocation gives back the context itself, and so does binding what was found there. Binding it to
any other one makes an instance that is none of those that were made, and that is so of every
allocation that is new, whatever value it holds. Binding it to a value makes such an instance
always. Whatever a script has done, all contexts that its session holds are among such as were made
when the next number is that of the supply, under which its next step derives. -/
theorem shared_identity :
    (∀ {next : Nat} {made : List Context}, Made next made → ∀ start ∈ made,
      ∀ ds : List Derivation, derivedFrom start ds ∈ made → ∀ k : Nat,
        Rebinds next made (derivedFrom start ds) k
          (((last? ds k).or (start.binding? k)).map Binding.allocation)) ∧
    ∀ (fuel flow : Nat) (body : Body) (byRequest : Bool) (environment : Surroundings),
      let w := (runSteps (performWith fuel flow) flow body (World.initial byRequest environment)).2
      (∃ made, Made w.supply made ∧ ∀ cx, .context cx ∈ w.holdings → cx ∈ made) ∧
      ∀ cx key c k, Assoc.get? w.contexts cx = some c → Assoc.get? w.keys key = some k →
        ∀ run more other target,
          (∀ value, Assoc.get? (perform run more other
              (.bind target (some cx) key value) w).2.contexts target =
            some (c.withValue w.supply k.id (.text value))) ∧
          ∀ shared b, Assoc.get? w.shared shared = some b →
            Assoc.get? (perform run more other
                (.bindShared target cx key shared) w).2.contexts target =
              some (c.withShared w.supply k.id b) := by
  constructor
  · intro next made hMade start hStart ds hReceiver k
    exact rebinds_derivedFrom hMade hStart hReceiver k
  · intro fuel flow body byRequest environment w
    obtain ⟨made, hDrawn⟩ := drawn_run fuel flow body byRequest environment
    refine ⟨⟨made, hDrawn.upwards, fun cx hcx => hDrawn.mem_of_held hcx⟩, ?_⟩
    intro cx key c k hContext hKey run more other target
    exact ⟨fun value => get?_contexts_bind hContext hKey other target value,
      fun shared b hShared => get?_contexts_bindShared hContext hKey target hShared⟩

/-- A text is shared under one key and six others are bound, so that the bindings lie in a list.
The shared text bound again is found where it was; an equal one that was allocated by itself is
not. A script that binds a shared text twice comes back to the context that it had. -/
theorem shared_identity_spilled :
    (let b : Binding := ⟨2, .text "v"⟩
      let cx := derivedFrom root (.shared 3 1 b ::
        (List.range 6).map fun i => .value (4 + i) (20 + i) (.text "v"))
      cx.isSpilled = true ∧ cx.withShared 11 1 b = cx ∧
        same cx (cx.withShared 11 1 ⟨10, .text "v"⟩) = false ∧
        same cx (cx.withValue 11 1 (.text "v")) = false) ∧
    let body : Body := [.key "k" "k", .share "s" "v", .root "r", .bindShared "a" "r" "k" "s"]
    let w := (runSteps (performWith 1 1) 1 body (World.initial false .plain)).2
    ∃ c, Assoc.get? w.contexts "a" = some c ∧
      Assoc.get? (perform (runBody (performWith 0)) 0 1 (.bindShared "b" "a" "k" "s") w).2.contexts
        "b" = some c := by
  constructor
  · intro b cx
    have hRoot := (Made.root 3).root_mem
    obtain ⟨made, hMade, hMore, hReceiver⟩ :=
      (Made.root 3).exists_chain hRoot (show 3 ≤ 11 by decide)
        (show (Derivation.shared 3 1 b :: (List.range 6).map fun i =>
          .value (4 + i) (20 + i) (.text "v")).Pairwise fun d e => d.id < e.id by decide)
        (by decide)
    have hBinds := shared_identity.1 hMade root (hMore hRoot) _ hReceiver 1
    exact ⟨rfl, hBinds.shared b rfl, hBinds.shared_anew ⟨10, .text "v"⟩ (by decide) cx hReceiver,
      hBinds.value_anew (.text "v") cx hReceiver⟩
  · intro body w
    obtain ⟨c, hNamed⟩ : ∃ c, Assoc.get? w.contexts "a" = some c :=
      Option.isSome_iff_exists.1 (by decide +kernel)
    obtain ⟨⟨made, hMade, hHeld⟩, hSteps⟩ := shared_identity.2 1 1 body false .plain
    have hMem : c ∈ made := by
      obtain ⟨x, hFind, rfl⟩ := Option.map_eq_some_iff.1 hNamed
      refine hHeld x.2 (World.mem_holdings.2 (.inl ⟨x.2, World.mem_contextsHeld.2 (.inl ?_), rfl⟩))
      exact ⟨x, List.mem_of_find?_eq_some hFind, rfl⟩
    have hBound : c.allocation? 2 = some 3 := by
      have hFound : (Assoc.get? w.contexts "a").bind (Context.allocation? · 2) = some 3 := by
        decide +kernel
      rwa [hNamed] at hFound
    have hBinds := shared_identity.1 hMade c hMem [] hMem 2
    refine ⟨c, hNamed, ?_⟩
    rw [(hSteps "a" "k" c ⟨2, "k"⟩ hNamed (by decide +kernel) _ _ _ "b").2 "s" ⟨3, .text "v"⟩
      (by decide +kernel)]
    exact congrArg some (hBinds.shared ⟨3, .text "v"⟩ hBound)

end SpanFlow.Script
