import SpanFlow.Proofs.Script.Quiet

/-!
# What every step leaves

Steps that run bodies are made of a few changes: a guard is opened and closed around a body, a flow
is begun and ended around it, and beside that work is used up. A relation between sessions is
lasting if it goes through these. What bodies keep of it, steps keep of it.

Some relations do not go through all steps, so three kinds are set apart: those that open a scope
without closing it, or close one, those that make work, and the one that takes work from the queue.

Numbers come from one supply. It only goes up, as long as no propagator goes back behind what it was
given, which none that a script can make does.

## Main results

* `leads_makePropagator`: propagators that scripts make take numbers upwards.
* `Tame`: what steps have in common that run no body.
* `relates_perform`: what bodies keep of a lasting relation, steps keep of it.
-/

namespace SpanFlow

/-- A propagator takes numbers from the supply upwards. -/
def Propagator.Advances (p : Propagator) : Prop :=
  ∀ reader cx next, next ≤ (p.extract reader cx next).next

namespace Script

open Session

variable {α γ : Type}

/-! ## Numbers -/

/-- The propagators of a session take numbers upwards. -/
structure Numbered (w : State) : Prop where
  global : w.global.Advances
  propagators : ∀ p ∈ w.propagators, p.2.Advances

theorem advances_jaeger (header : String) : (Propagator.jaeger header).Advances := by
  intro reader cx next
  rw [Propagator.extract]
  unfold Propagator.extractJaeger
  split
  · exact Nat.le_refl _
  · split
    · exact Nat.le_succ _
    · exact Nat.le_refl _

theorem advances_ofKey (key : Key) (header : String) (fields : List String) :
    (Propagator.ofKey key header fields).Advances := by
  intro reader cx next
  unfold Propagator.ofKey
  rw [Propagator.extract]
  dsimp only
  split
  · exact Nat.le_refl _
  · exact Nat.le_succ _

/-- Each member goes on where the one before it has stopped. -/
theorem advances_composite {members : List Propagator} (h : ∀ p ∈ members, p.Advances) :
    (Propagator.composite members).Advances := by
  intro reader cx next
  rw [Propagator.extract]
  induction members generalizing cx next with
  | nil => rw [Propagator.extractAll]
  | cons p rest ih =>
    rw [Propagator.extractAll]
    exact Nat.le_trans (h p (List.mem_cons_self ..) reader cx next)
      (ih (fun q hq => h q (List.mem_cons_of_mem _ hq)) _ _)

theorem advances_noop : Propagator.noop.Advances := by
  intro reader cx next
  rw [Propagator.extract]

/-- What is read by name of the propagators takes numbers upwards. -/
theorem Numbered.of_get? {w : State} (h : Numbered w) {name : String} {p : Propagator}
    (hGet : Assoc.get? w.propagators name = some p) : p.Advances := by
  obtain ⟨b, hFound, rfl⟩ := Option.map_eq_some_iff.1 hGet
  exact h.propagators b (List.mem_of_find?_eq_some hFound)

/-- Propagators that scripts make take numbers upwards, in sessions whose own propagators do. -/
theorem leads_makePropagator {R : State → State → Prop} [IsPreorder State R] {w : State}
    {next : Propagator → Action γ} (hNext : ∀ p, (Numbered w → p.Advances) → Leads R (next p) w)
    (plan : PropagatorPlan) : Leads R (makePropagator plan >>= next) w := by
  have hAdvances : Hereditary fun p => Numbered w → p.Advances :=
    ⟨fun _ => advances_noop, fun header _ => advances_jaeger header,
      fun key header fields _ => advances_ofKey key header fields,
      fun hAll hw => advances_composite fun p hp => hAll p hp hw⟩
  exact (hAdvances.reads (fun p hp hw => hw.propagators p hp) plan).leads hNext

/-! ## Tame steps -/

/-- Scopes stay as they are, and numbers are taken upwards. -/
structure Still (w w' : State) : Prop where
  scoping_eq : w'.scoping = w.scoping
  numbered : Numbered w → Numbered w' ∧ w.supply ≤ w'.supply

/-- Scopes stay as they are, numbers are taken upwards, and work keeps what it has captured. -/
structure Tame (w w' : State) : Prop extends Still w w' where
  retains : Retains (fun _ => True) w w'

instance : IsPreorder State Still where
  refl _ := ⟨rfl, fun hw => ⟨hw, Nat.le_refl _⟩⟩
  trans _ _ _ h h' := ⟨h'.scoping_eq.trans h.scoping_eq, fun hw =>
    ⟨(h'.numbered (h.numbered hw).1).1,
      Nat.le_trans (h.numbered hw).2 (h'.numbered (h.numbered hw).1).2⟩⟩

instance : IsPreorder State Tame where
  refl _ := ⟨refl_of _ _, refl_of _ _⟩
  trans _ _ _ h h' := ⟨trans_of _ h.toStill h'.toStill, trans_of _ h.retains h'.retains⟩

theorem Numbered.congr {w w' : State} (hw : Numbered w) (h : propagation w' = propagation w) :
    Numbered w' := by
  have hGlobal : w'.global = w.global := congrArg Prod.fst h
  have hPropagators : w'.propagators = w.propagators := congrArg Prod.snd h
  exact ⟨hGlobal ▸ hw.global, hPropagators ▸ hw.propagators⟩

theorem Quiet.tame {w w' : State} (h : Quiet w w') : Tame w w' :=
  ⟨⟨h.scoping_eq, fun hw => ⟨hw.congr h.propagation_eq, h.supply_le⟩⟩,
    .of_carrying_eq h.carrying_eq⟩

theorem Relates.tame {act : Action α} (h : Relates Quiet act) : Relates Tame act :=
  h.mono fun _ _ => Quiet.tame

/-- Work alone is changed, and keeps what it has captured. -/
structure Takes (w w' : State) : Prop where
  scoping_eq : w'.scoping = w.scoping
  supply_eq : w'.supply = w.supply
  propagation_eq : propagation w' = propagation w
  retains : Retains (fun _ => True) w w'

theorem Takes.tame {w w' : State} (h : Takes w w') : Tame w w' :=
  ⟨⟨h.scoping_eq, fun hw => ⟨hw.congr h.propagation_eq, Nat.le_of_eq h.supply_eq.symm⟩⟩, h.retains⟩

instance : IsPreorder State Takes where
  refl _ := ⟨rfl, rfl, rfl, refl_of _ _⟩
  trans _ _ _ h h' := ⟨h'.scoping_eq.trans h.scoping_eq, h'.supply_eq.trans h.supply_eq,
    h'.propagation_eq.trans h.propagation_eq, trans_of _ h.retains h'.retains⟩

theorem relates_namePropagator (target : String) (plan : PropagatorPlan) (described : Bool) :
    Relates Tame (namePropagator target plan described) := by
  intro w
  refine leads_makePropagator (fun p hp => ?_) plan
  refine ⟨⟨rfl, fun hw => ⟨⟨hw.global, fun q hq => ?_⟩, Nat.le_refl _⟩⟩, .of_carrying_eq rfl⟩
  rcases Assoc.mem_insert.1 hq with rfl | ⟨hOld, -⟩
  · exact hp hw
  · exact hw.propagators q hOld

theorem relates_setGlobal (plan : PropagatorPlan) : Relates Tame (setGlobal plan) := by
  intro w
  refine leads_makePropagator (fun p hp => ?_) plan
  exact ⟨⟨rfl, fun hw => ⟨⟨hp hw, hw.propagators⟩, Nat.le_refl _⟩⟩, .of_carrying_eq rfl⟩

theorem foldl_report_eq (reports : List Diagnostic) (w : State) :
    reports.foldl World.report w =
      { w with telemetry := reports.foldl Telemetry.report w.telemetry } := by
  induction reports generalizing w with
  | nil => rfl
  | cons d rest ih => exact ih (w.report d)

theorem leads_propagatorOr {R : State → State → Prop} [IsPreorder State R] {w : State}
    {next : Propagator → Action γ} {name? : Option String}
    (hNext : ∀ p, (Numbered w → p.Advances) → Leads R (next p) w) :
    Leads R (propagatorOr name? >>= next) w :=
  (reads_propagatorOr (Q := fun p => Numbered w → p.Advances)
    (fun p hp hw => hw.propagators p hp) Numbered.global name?).leads hNext

theorem relates_extract (flow : Nat) (target : String) (propagator? : Option String)
    (carrier : String) (cx? : Option String) :
    Relates Tame (extract flow target propagator? carrier cx?) := by
  intro w
  refine leads_propagatorOr fun p hp => leads_named fun c _ => ?_
  refine (readsOnly_contextOr flow cx?).leads fun cx _ => ?_
  have hStored : ∀ read : Extraction, Relates Tame (do
      discard <| storeContext target read.context
      return .extracted (cx.same read.context) read.context.size read.context.hasSpan
        read.context.spanContext : Action Result) := fun read =>
    ((relates_storeContext target read.context).tame.map _).bind fun _ => (readsOnly_pure _).relates
  refine Leads.bind ?_ fun read w' _ => hStored read w'
  show Tame w ((p.extract c.extractor cx w.supply).reports.foldl World.report
    { w with supply := (p.extract c.extractor cx w.supply).next })
  rw [foldl_report_eq]
  exact ⟨⟨rfl, fun hw => ⟨⟨hw.global, hw.propagators⟩, hp hw _ _ _⟩⟩, .of_carrying_eq rfl⟩

theorem tame_settle {w w' : State} (h : Takes w w') : Tame w w'.settle := by
  have hSettled : Quiet w' w'.settle := ⟨Nat.le_refl _, rfl, rfl, rfl⟩
  exact trans_of Tame h.tame hSettled.tame

theorem takes_erase_work (name : String) (w : State) :
    Takes w { w with works := Assoc.erase w.works name } :=
  ⟨rfl, rfl, rfl, .of_one rfl (World.carried?_erase_work w name) fun _ => .inr rfl⟩

theorem takes_erase_future (name : String) (w : State) :
    Takes w { w with futures := Assoc.erase w.futures name } :=
  ⟨rfl, rfl, rfl, .of_one rfl (World.carried?_erase_future w name) fun _ => .inr rfl⟩

theorem relates_release (kind : HeldKind) (name : String) :
    Relates Tame (release kind name) := by
  refine relates_change fun w => ?_
  cases kind with
  | work => exact tame_settle (takes_erase_work name w)
  | future => exact tame_settle (takes_erase_future name w)
  | context | span | tracer | provider => exact Quiet.tame ⟨Nat.le_refl _, rfl, rfl, rfl⟩

theorem takes_modifyFuture (name : String) {f : Future Body → Future Body}
    (hf : ∀ x, (f x).context? = x.context?) (w : State) : Takes w (modifyFuture name f w) := by
  unfold modifyFuture
  split
  · rename_i x hx
    refine ⟨rfl, rfl, rfl,
      .of_one rfl (World.carried?_insert_future w name _) fun _ => .inl ?_⟩
    rw [World.carried?, hx, hf]
    rfl
  · exact refl_of Takes w

theorem takes_modifyStream (name : String) {f : Stream Body → Stream Body}
    (hf : ∀ x, (f x).context? = x.context?) (w : State) : Takes w (modifyStream name f w) := by
  unfold modifyStream
  split
  · rename_i x hx
    refine ⟨rfl, rfl, rfl,
      .of_one rfl (World.carried?_insert_stream w name _) fun _ => .inl ?_⟩
    rw [World.carried?, hx, hf]
    rfl
  · exact refl_of Takes w

/-- A call on a sink changes its sum. -/
theorem takes_sum {w : State} {name : String} {x : Sink Body}
    (hx : Assoc.get? w.sinks name = some x)
    (sum : Int) :
    Takes w { w with sinks := Assoc.insert w.sinks name { x with sum := sum } } := by
  refine ⟨rfl, rfl, rfl,
    .of_one rfl (World.carried?_insert_sink w name _) fun _ => .inl ?_⟩
  rw [World.carried?, hx]
  rfl

theorem takes_enqueue (x : Context × Body) (w : State) :
    Takes w { w with queue := w.queue ++ [x] } :=
  ⟨rfl, rfl, rfl, fun k _ => .inl (by cases k <;> rfl), List.prefix_append _ _⟩

/-- Nothing is left to be done of an empty queue. -/
theorem runQueue_nil (run : Runner) (flow fuel : Nat) {w : State} (h : w.queue = []) :
    runQueue run flow (fuel + 1) w = (.ok [], w) := by
  rw [runQueue, bind_apply, get_apply]
  dsimp only
  rw [h]
  rfl

/-- The head of the queue is taken from it and run under its context, and then the others. -/
theorem runQueue_cons (run : Runner) (flow fuel : Nat) {w : State} {cx : Context} {body : Body}
    {rest : List (Context × Body)} (h : w.queue = (cx, body) :: rest) :
    runQueue run flow (fuel + 1) w = (do
      let first ← under flow cx (run flow body)
      let others ← runQueue run flow fuel
      return first :: others : Action (List Run)) { w with queue := rest } := by
  rw [runQueue, bind_apply, get_apply]
  dsimp only
  rw [h]
  rfl

/-- The future, stream or sink under a name. -/
def CarriedKind.piece : CarriedKind → String → Piece
  | .future => .future
  | .stream => .stream
  | .sink => .sink

/-- The piece of work that a step makes. Taking the context off a piece makes it another one. -/
def Step.makes? : Step → Option Piece
  | .wrap target .. => some (.work target)
  | .executor target .. => some (.executor target)
  | .future target .. => some (.future target)
  | .stream target .. => some (.stream target)
  | .sink target .. => some (.sink target)
  | .takeOff kind name => some (kind.piece name)
  | _ => none

/-- Whether a step opens a scope without closing it, closes one, or has the host do so. -/
def Step.changesScopes : Step → Bool
  | .attach .. | .close _ | .markActive .. | .request _ | .hostSet _ => true
  | _ => false

/-! ## Lasting relations -/

/-- Relations of sessions, one for each flow that runs, which go through everything that steps are
made of. -/
class Lasting (S : Nat → State → State → Prop) : Prop where
  preorder : ∀ flow, IsPreorder State (S flow)
  of_tame : ∀ {flow w w'}, Tame w w' → S flow w w'
  bracket : ∀ {flow cx} {w w' : State}, S flow (w.openGuard flow cx).2 w' →
    S flow w (w'.closeGuard flow (w.openGuard flow cx).1)
  newFlow : ∀ {flow} {w w' : State}, S w.beginFlow.1 w.beginFlow.2 w' →
    S flow w (w'.endFlow w.beginFlow.1)

section Lasting

variable {S : Nat → State → State → Prop} [Lasting S] {flow : Nat} {w : State} {act : Action α}

instance : IsPreorder State (S flow) := Lasting.preorder flow

theorem Relates.lasting (h : Relates Tame act) : Relates (S flow) act :=
  h.mono fun _ _ => Lasting.of_tame

theorem leads_modify {next : Unit → Action α} {f : State → State} (h : Takes w (f w))
    (hNext : Leads (S flow) (next ()) (f w)) : Leads (S flow) (modify f >>= next) w :=
  trans_of (S flow) (Lasting.of_tame h.tame) hNext

theorem relates_under (cx : Context) (h : Relates (S flow) act) :
    Relates (S flow) (under flow cx act) := fun w => Lasting.bracket (h (w.openGuard flow cx).2)

theorem relates_underOptional (cx? : Option Context) (h : Relates (S flow) act) :
    Relates (S flow) (underOptional flow cx? act) := by
  cases cx? with
  | none => exact h
  | some cx => exact relates_under cx h

theorem relates_keeping (x : Holding) (h : Relates (S flow) act) :
    Relates (S flow) (keeping x act) := by
  intro w
  have hPin : Tame w (w.pin x).2 := Quiet.tame ⟨Nat.le_succ _, rfl, rfl, rfl⟩
  have hUnpin : Tame (act (w.pin x).2).2 ((act (w.pin x).2).2.unpin (w.pin x).1) :=
    Quiet.tame ⟨Nat.le_refl _, rfl, rfl, rfl⟩
  exact trans_of (S flow) (Lasting.of_tame hPin)
    (trans_of (S flow) (h (w.pin x).2) (Lasting.of_tame hUnpin))

theorem relates_onNewFlow {act : Nat → Action α} (h : ∀ flow, Relates (S flow) (act flow)) :
    Relates (S flow) (onNewFlow act) := fun w => Lasting.newFlow (h _ w.beginFlow.2)

/-! ### Steps that run bodies -/

variable {run : Runner} (hRun : ∀ flow body, Relates (S flow) (run flow body))
include hRun

theorem relates_callWork (name : String) : Relates (S flow) (callWork run flow name) := by
  intro w
  refine leads_named fun work _ => ?_
  split
  · exact leads_modify (takes_erase_work name w)
      (relates_under work.context (hRun flow work.body) _)
  · exact relates_keeping _ (relates_under work.context (hRun flow work.body)) w

theorem relates_callTogether (name : String) (count : Nat) :
    Relates (S flow) (callTogether run name count) := by
  induction count with
  | zero => exact (readsOnly_pure _).relates
  | succ count ih =>
    have hFirst : Relates (S flow) (onNewFlow fun other => callWork run other name) :=
      relates_onNewFlow fun other => relates_callWork (S := S) hRun name
    exact hFirst.bind fun first => ih.bind fun others => (readsOnly_pure _).relates

theorem relates_runMode (mode : RunMode) (cx : Context) (body : Body) :
    Relates (S flow) (match mode with
      | .inline => keeping (.context cx) (under flow cx (run flow body))
      | .thread => keeping (.context cx) (onNewFlow fun other => under other cx (run other body))
      | .queue => do
        modify fun w => { w with queue := w.queue ++ [(cx, body)] }
        return .none) := by
  cases mode with
  | inline => exact relates_keeping _ (relates_under cx (hRun flow body))
  | thread =>
    exact relates_keeping _ (relates_onNewFlow fun other => relates_under cx (hRun other body))
  | queue => exact fun w => Lasting.of_tame (takes_enqueue (cx, body) w).tame

theorem relates_execute (name : String) (body : Body) :
    Relates (S flow) (execute run flow name body) := by
  refine (readsOnly_named _ name).relates.bind fun executor => ?_
  cases executor.context? with
  | none =>
    exact (readsOnly_ask _).relates.bind fun cx => relates_runMode hRun executor.mode cx body
  | some cx => exact relates_runMode hRun executor.mode cx body

/-- Taking work from the queue is not tame. -/
theorem relates_runQueue (hTake : ∀ (w : State) rest, S flow w { w with queue := rest })
    (fuel : Nat) : Relates (S flow) (runQueue run flow fuel) := by
  induction fuel with
  | zero => exact (readsOnly_throw _).relates
  | succ fuel ih =>
    intro w
    rcases hQueue : w.queue with _ | ⟨⟨cx, body⟩, rest⟩
    · unfold Leads
      rw [runQueue_nil run flow fuel hQueue]
      exact refl_of (S flow) w
    · unfold Leads
      rw [runQueue_cons run flow fuel hQueue]
      have hFirst := relates_under cx (hRun flow body)
      have hAll := hFirst.bind fun first => ih.bind fun others =>
        (readsOnly_pure (first :: others)).relates
      exact trans_of (S flow) (hTake w rest) (hAll _)

theorem relates_poll (name : String) : Relates (S flow) (poll run flow name) := by
  intro w
  refine leads_named fun future _ => ?_
  split
  · exact ((relates_underOptional _ (readsOnly_pure _).relates).bind fun _ =>
      (readsOnly_pure _).relates) w
  · rename_i body rest _
    have hTaken := takes_modifyFuture name (f := fun x => { x with rest := rest }) (fun _ => rfl) w
    refine leads_modify hTaken ?_
    refine ((relates_underOptional _ (hRun flow body)).bind fun ran => ?_) _
    split
    · exact (readsOnly_pure _).relates
    · have hCounted := takes_modifyFuture name (f := fun x => { x with finished := x.finished + 1 })
        fun _ => rfl
      exact ((relates_modify fun w => (hCounted w).tame).bind fun _ =>
        (readsOnly_pure _).relates).lasting

theorem relates_pollNext (name : String) : Relates (S flow) (pollNext run flow name) := by
  intro w
  refine leads_named fun stream _ => ?_
  split
  · exact ((relates_underOptional _ (readsOnly_pure _).relates).bind fun _ =>
      (readsOnly_pure _).relates) w
  · rename_i item rest _
    have hTaken := takes_modifyStream name (f := fun x => { x with rest := rest }) (fun _ => rfl) w
    refine leads_modify hTaken ?_
    refine ((relates_underOptional _ (hRun flow item.body)).bind fun ran => ?_) _
    split
    · exact (readsOnly_pure _).relates
    · have hCounted := takes_modifyStream name (f := fun x => { x with yielded := x.yielded + 1 })
        fun _ => rfl
      exact ((relates_modify fun w => (hCounted w).tame).bind fun _ =>
        (readsOnly_pure _).relates).lasting

theorem relates_callSink (name : String) (call : SinkCall) :
    Relates (S flow) (callSink run flow name call) := by
  intro w
  refine leads_named fun sink hSink => ?_
  refine leads_modify (takes_sum hSink (sumAfter sink.sum call)) ?_
  exact ((relates_underOptional _ (hRun flow sink.body)).bind fun _ => (readsOnly_pure _).relates) _

theorem relates_inSpan (tracer name : String) (body : Body) (target? : Option String) :
    Relates (S flow) (inSpan run flow tracer name body target?) := by
  have hRan : ∀ inner : Context, Relates (S flow) (do
      let ran ← run flow body
      if ran.failure?.isNone then
        passOn fun t => t.callActive inner.activeSpan (.finish t.now)
      return ran : Action Run) := by
    intro inner
    refine (hRun flow body).bind fun ran => ?_
    split
    · exact ((relates_passOn _).tame.bind fun _ => (readsOnly_pure _).relates).lasting
    · exact (readsOnly_pure _).relates
  have hInside : ∀ inner, Relates (S flow) (runInside run flow inner body target?) := by
    intro inner
    refine relates_keeping _ (relates_under inner ?_)
    cases target? with
    | none => exact hRan inner
    | some target =>
      exact ((relates_storeContext target inner).tame.map _).lasting.bind fun _ => hRan inner
  refine (readsOnly_named _ tracer).relates.bind fun tracer =>
    (readsOnly_contextOr flow none).relates.bind fun cx => relates_keeping _ ?_
  refine Relates.bind (Relates.lasting (Relates.tame ?_)) hInside
  exact relates_change fun _ => ⟨Nat.le_succ _, rfl, rfl, rfl⟩

/-- What bodies keep of a lasting relation, steps keep of it, but for those that open or close a
scope by itself, those that make work, and the one that takes work from the queue. -/
theorem relates_perform (fuel : Nat) (s : Step) (hScopes : s.changesScopes = false)
    (hMakes : s.makes? = none)
    (hTake : s = .runQueue → ∀ (w : State) rest, S flow w { w with queue := rest }) :
    Relates (S flow) (perform run fuel flow s) := by
  cases s with
  | attach | close | request | hostSet | markActive => cases hScopes
  | wrap | executor | future | stream | sink | takeOff => cases hMakes
  | key target name => exact (relates_makeKey target name).tame.lasting
  | copyKey target key => exact (relates_copyKey target key).tame.lasting
  | sameKey a b =>
    exact ((readsOnly_named _ a).bind fun _ => (readsOnly_named _ b).bind fun _ =>
      readsOnly_pure _).relates
  | describeKey key => exact ((readsOnly_named _ key).bind fun _ => readsOnly_pure _).relates
  | share target value => exact (relates_share target value).tame.lasting
  | root target => exact (relates_storeContext target _).tame.lasting
  | copy target cx =>
    exact (readsOnly_named _ cx).relates.bind fun _ => (relates_storeContext target _).tame.lasting
  | bind target cx? key value => exact (relates_bind flow target cx? key value).tame.lasting
  | bindShared target cx key shared =>
    exact (relates_bindShared target cx key shared).tame.lasting
  | current target =>
    exact (readsOnly_contextOr flow none).relates.bind fun _ =>
      (relates_storeContext target _).tame.lasting
  | read cx? key =>
    exact ((readsOnly_contextOr flow cx?).bind fun _ => (readsOnly_named _ key).bind fun _ =>
      readsOnly_pure _).relates
  | readAll cx => exact (readsOnly_readAll cx).relates
  | readShared cx key => exact (readsOnly_readShared cx key).relates
  | sameContext a b =>
    exact ((readsOnly_named _ a).bind fun _ => (readsOnly_named _ b).bind fun _ =>
      readsOnly_pure _).relates
  | size cx => exact ((readsOnly_named _ cx).bind fun _ => readsOnly_pure _).relates
  | describe cx => exact ((readsOnly_named _ cx).bind fun _ => readsOnly_pure _).relates
  | describeGuard guard => exact (readsOnly_describeGuard flow guard).relates
  | fail message => exact (readsOnly_throw _).relates
  | thread body =>
    exact (relates_onNewFlow fun other => hRun other body).bind fun _ => (readsOnly_pure _).relates
  | installStorage => exact (readsOnly_pure _).relates
  | call work => exact (relates_callWork hRun work).bind fun _ => (readsOnly_pure _).relates
  | callTogether work count =>
    exact (relates_callTogether hRun work count).bind fun _ => (readsOnly_pure _).relates
  | execute executor body =>
    exact (relates_execute hRun executor body).bind fun _ => (readsOnly_pure _).relates
  | runQueue =>
    exact (relates_runQueue hRun (hTake rfl) fuel).bind fun _ => (readsOnly_pure _).relates
  | poll future => exact relates_poll hRun future
  | pollNext stream => exact relates_pollNext hRun stream
  | callSink sink call => exact relates_callSink hRun sink call
  | elapse now => exact (relates_elapse now).tame.lasting
  | hostGet target =>
    exact (readsOnly_ask _).relates.bind fun _ => (relates_storeContext target _).tame.lasting
  | inertSpan target sc => exact (relates_makeInert target sc).tame.lasting
  | journaledSpan target sc => exact (relates_makeJournaled target sc).tame.lasting
  | readJournal span => exact (relates_readJournal span).tame.lasting
  | boxSpan span => exact (relates_boxSpan span).tame.lasting
  | remote target cx sc => exact (relates_makeRemote target cx sc).tame.lasting
  | withSpan target cx? span => exact (relates_withSpan flow target cx? span).tame.lasting
  | hasSpan cx => exact ((readsOnly_named _ cx).bind fun _ => readsOnly_pure _).relates
  | callSpan on call => exact (relates_callOn flow on call).tame.lasting
  | isRecording on => exact ((readsOnly_isRecording flow on).bind fun _ => readsOnly_pure _).relates
  | spanContext on => exact ((readsOnly_identityOf flow on).bind fun _ => readsOnly_pure _).relates
  | describeSpan on => exact (readsOnly_describeOn flow on).relates
  | carrier target kind items => exact (relates_putCarrier target _).tame.lasting
  | setCarrier carrier name value => exact (relates_setCarrier carrier name value).tame.lasting
  | readCarrier carrier name =>
    exact ((readsOnly_named _ carrier).bind fun _ => readsOnly_pure _).relates
  | describeAdapters => exact (readsOnly_pure _).relates
  | propagator target plan described =>
    exact (relates_namePropagator target plan described).lasting
  | setGlobal plan => exact (relates_setGlobal plan).lasting
  | globalFields => exact ((readsOnly_ask _).bind fun _ => readsOnly_pure _).relates
  | inject propagator? carrier cx? =>
    exact (relates_inject flow propagator? carrier cx?).tame.lasting
  | extract target propagator? carrier cx? =>
    exact (relates_extract flow target propagator? carrier cx?).lasting
  | exporter target kind => exact (relates_makeExporter target kind).tame.lasting
  | stored exporter =>
    exact ((readsOnly_exporterNamed exporter).bind fun _ => readsOnly_pure _).relates
  | clear exporter => exact (relates_clearExporter exporter).tame.lasting
  | handed exporter => exact (relates_handedSince exporter).tame.lasting
  | provider target parts described =>
    exact (relates_makeProvider target parts described).tame.lasting
  | standardProvider target => exact (relates_makeStandardProvider target).tame.lasting
  | limitQueries provider =>
    exact ((readsOnly_named _ provider).bind fun _ => readsOnly_ask _).relates
  | copyProvider target provider => exact (relates_copyProvider target provider).tame.lasting
  | flush provider => exact (relates_onProvider provider _).tame.lasting
  | shutdown provider => exact (relates_onProvider provider _).tame.lasting
  | tracer target provider name => exact (relates_makeTracer target provider name).tame.lasting
  | start target tracer name cx? =>
    exact (relates_startSpan flow target tracer name cx?).tame.lasting
  | data span => exact ((readsOnly_named _ span).bind fun _ => readsOnly_ask _).relates
  | inSpan tracer name body target? =>
    exact (relates_inSpan hRun tracer name body target?).bind fun _ => (readsOnly_pure _).relates
  | release kind name => exact (relates_release kind name).lasting

end Lasting

end Script

end SpanFlow
