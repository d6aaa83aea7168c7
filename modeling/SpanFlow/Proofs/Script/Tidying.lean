import SpanFlow.Proofs.Script.Neatness

/-!
# Scripts leave sessions tidy

After every step of a script, on whatever flow and to whatever depth, nothing is loose: whatever was
not released is held by something. Steps that run no body have been dealt with; what is left are
those that use work up, and those that open a scope, run a body in it and close it.

## Main results

* `neatWith_eraseWork`, `neatWith_dequeue`, `neatWith_takeSpan`: what is taken out to be held by a
  guard is all that is loose meanwhile.
* `neat_perform`: every step keeps sessions neat, if the bodies that it runs do so.
* `tidy_run`: whatever a script does, the session is tidy.
-/

namespace SpanFlow

namespace Script

open Session Telemetry

variable {α γ : Type}

/-! ## Steps on propagators and on work -/

section Neat

variable {w : State}

/-- What settles is neat, whatever was let go by name and whatever work was made, if no piece of
work hides another one. -/
theorem neat_settle (w' : State) (hw : Neat w) (hSupply : w'.supply = w.supply)
    (hScoping : w'.scoping = w.scoping) (hPropagation : propagation w' = propagation w)
    (hPins : w'.pins = w.pins) (hDistinct : Distinct w'.carrying)
    (hSpans : Assoc.Unhidden w'.spans) : Neat w'.settle := by
  have hStill : Still w w'.settle :=
    ⟨hScoping, fun h => ⟨h.congr hPropagation, Nat.le_of_eq hSupply.symm⟩⟩
  obtain ⟨hNumbered, hKeyed⟩ := hStill.counted hw hPins
  exact neat_of hNumbered hKeyed hDistinct hSpans (World.calm_settle w')

/-- A change of work alone that lets no context go but such as are held besides. -/
theorem Still.neatWith_contexts {w' : State} (h : Still w w') (hw : Neat w)
    (hDistinct : Distinct w'.carrying) (hRest : w' = { w with
      works := w'.works, executors := w'.executors, futures := w'.futures, streams := w'.streams
      sinks := w'.sinks, queue := w'.queue })
    {besides : List Holding}
    (hContexts : ∀ cx ∈ w.contextsHeld, .context cx ∈ besides ∨ cx ∈ w'.contextsHeld) :
    NeatWith besides w' := by
  have hPins : w'.pins = w.pins := by rw [hRest]
  have hTelemetry : w'.telemetry = w.telemetry := by rw [hRest]
  have hSpans : w'.spans = w.spans := by rw [hRest]
  have hHeld : ∀ x ∈ w.holdings, x ∈ besides ++ w'.holdings := by
    intro x hx
    rw [List.mem_append]
    rcases World.mem_holdings.1 hx with ⟨cx, hcx, rfl⟩ | hOther
    · refine (hContexts cx hcx).imp_right fun hHeld => ?_
      exact World.mem_holdings.2 (.inl ⟨cx, hHeld, rfl⟩)
    · refine .inr (World.mem_holdings.2 (.inr ?_))
      rw [hRest]
      exact hOther
  obtain ⟨hNumbered, hKeyed⟩ := h.counted hw hPins
  refine ⟨hNumbered, hKeyed, hDistinct, hSpans ▸ hw.spans, ?_⟩
  rw [hTelemetry]
  refine hw.calm_holdings.mono (fun id hid => ?_) fun i hi => ?_
  · obtain ⟨x, hx, hReached⟩ := List.mem_filterMap.1 hid
    exact List.mem_filterMap.2 ⟨x, hHeld x hx, hReached⟩
  · obtain ⟨x, hx, hReached⟩ := List.mem_filterMap.1 hi
    exact List.mem_filterMap.2 ⟨x, hHeld x hx, hReached⟩

end Neat

theorem neat_namePropagator (target : String) (plan : PropagatorPlan) (described : Bool) :
    Relates KeepsNeat (namePropagator target plan described) := by
  intro w
  refine leads_makePropagator (fun p hp => ?_) plan
  intro hw
  have hAll : (Assoc.insert w.propagators target p).All Propagator.Advances :=
    Assoc.All.insert hw.numbered.propagators target (hp hw.numbered)
  exact ⟨⟨hw.numbered.global, hAll⟩, ⟨hw.keyed.guards, hw.keyed.pins, hw.keyed.slots⟩, hw.distinct,
    hw.spans, hw.calm⟩

theorem neat_setGlobal (plan : PropagatorPlan) : Relates KeepsNeat (setGlobal plan) := by
  intro w
  refine leads_makePropagator (fun p hp => ?_) plan
  intro hw
  exact ⟨⟨hp hw.numbered, hw.numbered.propagators⟩,
    ⟨hw.keyed.guards, hw.keyed.pins, hw.keyed.slots⟩, hw.distinct, hw.spans, hw.calm⟩

theorem neat_extract (flow : Nat) (target : String) (propagator? : Option String)
    (carrier : String) (cx? : Option String) :
    Relates KeepsNeat (extract flow target propagator? carrier cx?) := by
  intro w
  refine leads_propagatorOr fun p hp => leads_named fun c _ => ?_
  refine (readsOnly_contextOr flow cx?).leads fun cx _ => ?_
  have hStored : ∀ read : Extraction, Relates KeepsNeat (do
      discard <| storeContext target read.context
      return .extracted (cx.same read.context) read.context.size read.context.hasSpan
        read.context.spanContext : Action Result) := fun read =>
    (((relates_storeContext target read.context).keepsNeat (mild_storeContext _ _)).map _).bind
      fun _ => (readsOnly_pure _).relates
  refine Leads.bind ?_ fun read w' _ => hStored read w'
  intro hw
  have hSupply := hp hw.numbered c.extractor cx w.supply
  show Neat ((p.extract c.extractor cx w.supply).reports.foldl World.report
    { w with supply := (p.extract c.extractor cx w.supply).next })
  rw [foldl_report_eq, Telemetry.foldl_report]
  refine ⟨hw.numbered.congr rfl, ⟨fun g hg => ?_, fun pin hPin => ?_, hw.keyed.slots⟩, hw.distinct,
    hw.spans, hw.calm.congr rfl rfl⟩
  · exact Nat.lt_of_lt_of_le (hw.keyed.guards g hg) hSupply
  · exact Nat.lt_of_lt_of_le (hw.keyed.pins pin hPin) hSupply

theorem neat_release (kind : HeldKind) (name : String) : Relates KeepsNeat (release kind name) := by
  refine relates_change fun w hw => ?_
  cases kind with
  | work =>
    exact neat_settle _ hw rfl rfl rfl rfl
      { hw.distinct with works := hw.distinct.works.erase name }
      hw.spans
  | future =>
    exact neat_settle _ hw rfl rfl rfl rfl
      { hw.distinct with futures := hw.distinct.futures.erase name } hw.spans
  | span => exact neat_settle _ hw rfl rfl rfl rfl hw.distinct (hw.spans.erase name)
  | context | tracer | provider => exact neat_settle _ hw rfl rfl rfl rfl hw.distinct hw.spans

/-! ### Making work -/

section Naming

variable (w : State) (name : String)

theorem neat_nameWork (x : Work Body) :
    KeepsNeat w { w with works := Assoc.insert w.works name x }.settle := fun hw =>
  neat_settle { w with works := Assoc.insert w.works name x } hw rfl rfl rfl rfl
    { hw.distinct with works := hw.distinct.works.insert name x } hw.spans

theorem neat_nameExecutor (x : Executor) :
    KeepsNeat w { w with executors := Assoc.insert w.executors name x }.settle := fun hw =>
  neat_settle { w with executors := Assoc.insert w.executors name x } hw rfl rfl rfl rfl
    { hw.distinct with } hw.spans

theorem neat_nameFuture (x : Future Body) :
    KeepsNeat w { w with futures := Assoc.insert w.futures name x }.settle := fun hw =>
  neat_settle { w with futures := Assoc.insert w.futures name x } hw rfl rfl rfl rfl
    { hw.distinct with futures := hw.distinct.futures.insert name x } hw.spans

theorem neat_nameStream (x : Stream Body) :
    KeepsNeat w { w with streams := Assoc.insert w.streams name x }.settle := fun hw =>
  neat_settle { w with streams := Assoc.insert w.streams name x } hw rfl rfl rfl rfl
    { hw.distinct with streams := hw.distinct.streams.insert name x } hw.spans

theorem neat_nameSink (x : Sink Body) :
    KeepsNeat w { w with sinks := Assoc.insert w.sinks name x }.settle := fun hw =>
  neat_settle { w with sinks := Assoc.insert w.sinks name x } hw rfl rfl rfl rfl
    { hw.distinct with sinks := hw.distinct.sinks.insert name x } hw.spans

end Naming

theorem readsOnly_contextsNamed (cx? : Option String) :
    ReadsOnly (cx?.mapM (named World.contexts)) := by
  cases cx? with
  | none => exact readsOnly_pure _
  | some name => exact (readsOnly_named _ name).map _

theorem neat_makeExecutor (target : String) (cx? : Option String) (mode : RunMode) :
    Relates KeepsNeat (makeExecutor target cx? mode) := by
  refine (readsOnly_contextsNamed cx?).relates.bind fun context? => ?_
  cases context? with
  | none => exact relates_change fun w => neat_nameExecutor w target _
  | some cx => exact relates_change fun w => neat_nameExecutor w target _

theorem neat_takeOff (kind : CarriedKind) (name : String) :
    Relates KeepsNeat (takeOff kind name) := by
  cases kind with
  | future =>
    exact (readsOnly_named _ name).relates.bind fun x =>
      (relates_modify fun w => neat_nameFuture w name { x with context? := none }).bind fun _ =>
        (readsOnly_pure _).relates
  | stream =>
    exact (readsOnly_named _ name).relates.bind fun x =>
      (relates_modify fun w => neat_nameStream w name { x with context? := none }).bind fun _ =>
        (readsOnly_pure _).relates
  | sink =>
    exact (readsOnly_named _ name).relates.bind fun x =>
      (relates_modify fun w => neat_nameSink w name { x with context? := none }).bind fun _ =>
        (readsOnly_pure _).relates

/-! ### Using work up -/

theorem neat_modifyFuture (name : String) {f : Future Body → Future Body}
    (hf : ∀ x, (f x).context? = x.context?) (w : State) : KeepsNeat w (modifyFuture name f w) := by
  intro hw
  have hTakes := takes_modifyFuture name hf w
  unfold modifyFuture at hTakes ⊢
  cases hGet : Assoc.get? w.futures name with
  | none => exact hw
  | some x =>
    rw [hGet] at hTakes
    refine hTakes.tame.toStill.neatWith_contexts hw
      { hw.distinct with futures := hw.distinct.futures.insert name (f x) } rfl
      fun cx hcx => .inr ?_
    rw [World.mem_contextsHeld] at hcx ⊢
    refine hcx.imp_right <| .imp_right <| .imp_right <| .imp_right <| .imp_right <| .imp_left ?_
    exact hw.distinct.futures.exists_insert hGet (P := fun x => cx ∈ x.context?)
      (fun hOf => by rw [hf]; exact hOf)

theorem neat_modifyStream (name : String) {f : Stream Body → Stream Body}
    (hf : ∀ x, (f x).context? = x.context?) (w : State) : KeepsNeat w (modifyStream name f w) := by
  intro hw
  have hTakes := takes_modifyStream name hf w
  unfold modifyStream at hTakes ⊢
  cases hGet : Assoc.get? w.streams name with
  | none => exact hw
  | some x =>
    rw [hGet] at hTakes
    refine hTakes.tame.toStill.neatWith_contexts hw
      { hw.distinct with streams := hw.distinct.streams.insert name (f x) } rfl
      fun cx hcx => .inr ?_
    rw [World.mem_contextsHeld] at hcx ⊢
    refine hcx.imp_right <| .imp_right <| .imp_right <| .imp_right <| .imp_right <| .imp_right <|
      .imp_left ?_
    exact hw.distinct.streams.exists_insert hGet (P := fun x => cx ∈ x.context?)
      (fun hOf => by rw [hf]; exact hOf)

theorem neat_sum {w : State} {name : String} {x : Sink Body}
    (hGet : Assoc.get? w.sinks name = some x) (sum : Int) :
    KeepsNeat w { w with sinks := Assoc.insert w.sinks name { x with sum := sum } } := by
  intro hw
  refine (takes_sum hGet sum).tame.toStill.neatWith_contexts hw
    { hw.distinct with sinks := hw.distinct.sinks.insert name _ } rfl fun cx hcx => .inr ?_
  rw [World.mem_contextsHeld] at hcx ⊢
  refine hcx.imp_right <| .imp_right <| .imp_right <| .imp_right <| .imp_right <| .imp_right <|
    .imp_right <| .imp_left ?_
  exact hw.distinct.sinks.exists_insert hGet (P := fun x => cx ∈ x.context?) id

theorem neat_enqueue (x : Context × Body) (w : State) :
    KeepsNeat w { w with queue := w.queue ++ [x] } := by
  intro hw
  refine (takes_enqueue x w).tame.toStill.neatWith_contexts hw { hw.distinct with } rfl
    fun cx hcx => .inr ?_
  rw [World.mem_contextsHeld] at hcx ⊢
  refine hcx.imp_right <| .imp_right <| .imp_right <| .imp_right <| .imp_right <| .imp_right <|
    .imp_right <| .imp_right ?_
  rintro ⟨y, hy, rfl⟩
  exact ⟨y, List.mem_append_left _ hy, rfl⟩

/-- Work that runs once is let go by its name and held by the guard under which it runs. -/
theorem neatWith_eraseWork {w : State} (hw : Neat w) {name : String} {x : Work Body}
    (hGet : Assoc.get? w.works name = some x) :
    NeatWith [.context x.context] { w with works := Assoc.erase w.works name } := by
  refine (takes_erase_work name w).tame.toStill.neatWith_contexts hw
    { hw.distinct with works := hw.distinct.works.erase name } rfl fun cx hcx => ?_
  rw [World.mem_contextsHeld] at hcx
  rcases hcx with hNames | hSlots | hGuards | hWorks | hRest
  · exact .inr (World.mem_contextsHeld.2 (.inl hNames))
  · exact .inr (World.mem_contextsHeld.2 (.inr (.inl hSlots)))
  · exact .inr (World.mem_contextsHeld.2 (.inr (.inr (.inl hGuards))))
  · rcases hw.distinct.works.exists_erase hGet (P := fun x => x.context = cx) hWorks
      with rfl | hOther
    · exact .inl List.mem_cons_self
    · exact .inr (World.mem_contextsHeld.2 (.inr (.inr (.inr (.inl hOther)))))
  · exact .inr (World.mem_contextsHeld.2 (.inr (.inr (.inr (.inr hRest)))))

/-- So is work from the head of the queue. -/
theorem neatWith_dequeue {w : State} (hw : Neat w) {cx : Context} {body : Body}
    {rest : List (Context × Body)} (hQueue : w.queue = (cx, body) :: rest) :
    NeatWith [.context cx] { w with queue := rest } := by
  have hStill : Still w { w with queue := rest } := ⟨rfl, fun h => ⟨h.congr rfl, Nat.le_refl _⟩⟩
  refine hStill.neatWith_contexts hw { hw.distinct with } rfl fun other hOther => ?_
  rw [World.mem_contextsHeld, hQueue] at hOther
  rcases hOther with hNames | hSlots | hGuards | hWorks | hExecutors | hFutures |
    hStreams | hSinks |
    ⟨y, hy, rfl⟩
  · exact .inr (World.mem_contextsHeld.2 (.inl hNames))
  · exact .inr (World.mem_contextsHeld.2 (.inr (.inl hSlots)))
  · exact .inr (World.mem_contextsHeld.2 (.inr (.inr (.inl hGuards))))
  · exact .inr (World.mem_contextsHeld.2 (.inr (.inr (.inr (.inl hWorks)))))
  · exact .inr (World.mem_contextsHeld.2 (.inr (.inr (.inr (.inr (.inl hExecutors))))))
  · exact .inr (World.mem_contextsHeld.2 (.inr (.inr (.inr (.inr (.inr (.inl hFutures)))))))
  · exact .inr (World.mem_contextsHeld.2 (.inr (.inr (.inr (.inr (.inr (.inr (.inl hStreams))))))))
  · exact .inr (World.mem_contextsHeld.2
      (.inr (.inr (.inr (.inr (.inr (.inr (.inr (.inl hSinks)))))))))
  · rcases List.mem_cons.1 hy with rfl | hRest
    · exact .inl List.mem_cons_self
    · exact .inr (World.mem_contextsHeld.2
        (.inr (.inr (.inr (.inr (.inr (.inr (.inr (.inr ⟨y, hRest, rfl⟩)))))))))

/-! ## Steps that open and close scopes -/

theorem neat_attach {w : State} {cx : Context} (hw : NeatWith [.context cx] w) (flow : Nat)
    (guard : String) : Neat (attach flow cx guard w).2 :=
  neat_modifyFlow (neat_openGuard hw flow) flow
    fun f => { f with scopes := ⟨guard, w.supply⟩ :: f.scopes }

/-- A span that is taken from its name is held by the context that is to carry it. -/
theorem neatWith_takeSpan {w : State} (hw : Neat w) {name : String} {id : Nat}
    (hGet : Assoc.get? w.spans name = some id) (cx : Context) (number : Nat) :
    NeatWith [.context (cx.withSpan number (w.telemetry.activeSpan id))]
      { w with spans := Assoc.erase w.spans name } := by
  let taken : State := { w with spans := Assoc.erase w.spans name }
  have hStill : Still w taken := ⟨rfl, fun h => ⟨h.congr rfl, Nat.le_refl _⟩⟩
  have hHeld : ∀ x ∈ w.holdings, x = .span id ∨ x ∈ taken.holdings := by
    intro x hx
    rcases World.mem_holdings.1 hx with hContext | hPin | ⟨y, hy, rfl⟩ | hRest
    · exact .inr (World.mem_holdings.2 (.inl hContext))
    · exact .inr (World.mem_holdings.2 (.inr (.inl hPin)))
    · rcases hw.spans.exists_erase hGet (P := fun i => i = y.2) ⟨y, hy, rfl⟩
        with rfl | ⟨z, hz, hSame⟩
      · exact .inl rfl
      · exact .inr (World.mem_holdings.2 (.inr (.inr (.inl ⟨z, hz, by rw [hSame]⟩))))
    · exact .inr (World.mem_holdings.2 (.inr (.inr (.inr hRest))))
  obtain ⟨hNumbered, hKeyed⟩ := hStill.counted hw rfl
  refine neatWith_of hNumbered hKeyed hw.distinct (hw.spans.erase name) ?_
  constructor
  · intro i s hSpan hKept
    obtain ⟨x, hx, hReached⟩ := List.mem_filterMap.1 (hw.calm_holdings.span i s hSpan hKept)
    rcases hHeld x hx with rfl | hTaken
    · obtain rfl := Option.some.inj hReached
      refine List.mem_filterMap.2 ⟨_, List.mem_cons_self, ?_⟩
      rw [Holding.span?, Context.activeSpan?_withSpan, activeSpan, hSpan]
      rfl
    · exact List.mem_filterMap.2 ⟨x, List.mem_cons_of_mem _ hTaken, hReached⟩
  · intro i q hProvider hKept
    refine (hw.calm_holdings.provider i q hProvider hKept).imp_left fun hReached => ?_
    obtain ⟨x, hx, hReached⟩ := List.mem_filterMap.1 hReached
    rcases hHeld x hx with rfl | hTaken
    · cases hReached
    · exact List.mem_filterMap.2 ⟨x, List.mem_cons_of_mem _ hTaken, hReached⟩

theorem NeatWith.fresh {w : State} {besides : List Holding} (h : NeatWith besides w) :
    NeatWith besides w.fresh.2 where
  numbered := h.numbered.congr rfl
  keyed := ⟨fun g hg => Nat.lt_succ_of_lt (h.keyed.guards g hg),
    fun pin hPin => Nat.lt_succ_of_lt (h.keyed.pins pin hPin), h.keyed.slots⟩
  distinct := h.distinct
  spans := h.spans
  calm := h.calm

theorem neat_markActive (flow : Nat) (guard span : String) :
    Relates KeepsNeat (markActive flow guard span) := by
  refine (readsOnly_contextOr flow none).relates.bind fun cx w => ?_
  unfold takeSpan
  rw [bind_assoc]
  refine leads_named fun id hGet hw => ?_
  exact neat_attach (neatWith_takeSpan hw hGet cx w.supply).fresh flow guard

theorem neat_closeScope {w : State} (hw : Neat w) (flow guard : Nat) :
    Neat (closeScope flow guard w) :=
  neat_closeGuard (neat_modifyFlow hw flow _) flow guard

theorem neat_closeNamed (flow : Nat) (name : String) : Relates KeepsNeat (closeNamed flow name) :=
  (readsOnly_scopeNamed flow name).relates.bind fun s =>
    relates_change fun _ hw => neat_closeScope hw flow s.guard

theorem neat_replace {w : State} (hw : Neat w) (slot : Slot) (cx : Context) :
    Neat { w with slots := w.slots.replace slot cx }.settle := by
  have hKeyed : Keyed { w with slots := w.slots.replace slot cx } :=
    ⟨hw.keyed.guards, hw.keyed.pins, hw.keyed.slots.insert slot cx⟩
  exact neat_of (hw.numbered.congr rfl) ⟨hKeyed.guards, hKeyed.pins, hKeyed.slots⟩ hw.distinct
    hw.spans (World.calm_settle { w with slots := w.slots.replace slot cx })

/-! ## Steps that run bodies -/

section Running

theorem neat_bind {act : Action α} {next : α → Action γ} {w : State} (h : Neat (act w).2)
    (hNext : ∀ a, Relates KeepsNeat (next a)) : Neat ((act >>= next) w).2 := by
  rw [bind_apply]
  rcases hRan : act w with ⟨halt | a, w'⟩ <;> rw [hRan] at h
  · exact h
  · exact hNext a w' h

/-- What is done under a guard, if nothing was loose but what the guard holds. -/
theorem neat_underWith {act : Action α} (hAct : Relates KeepsNeat act) {w : State} {cx : Context}
    (hw : NeatWith [.context cx] w) (flow : Nat) : Neat (under flow cx act w).2 :=
  neat_closeGuard (hAct _ (neat_openGuard hw flow)) flow _

/-- What is done while something is kept alive, if nothing else was loose. -/
theorem neat_keepingWith {act : Action α} (hAct : Relates KeepsNeat act) {w : State} {x : Holding}
    (hw : NeatWith [x] w) : Neat (keeping x act w).2 :=
  neat_unpin (hAct _ (neat_pin hw)) _

theorem neat_under {act : Action α} (hAct : Relates KeepsNeat act) (flow : Nat) (cx : Context) :
    Relates KeepsNeat (under flow cx act) := fun _ hw => neat_underWith hAct (hw.cons _) flow

theorem neat_underOptional {act : Action α} (hAct : Relates KeepsNeat act) (flow : Nat)
    (cx? : Option Context) : Relates KeepsNeat (underOptional flow cx? act) := by
  cases cx? with
  | none => exact hAct
  | some cx => exact neat_under hAct flow cx

theorem neat_keeping {act : Action α} (hAct : Relates KeepsNeat act) (x : Holding) :
    Relates KeepsNeat (keeping x act) := fun _ hw => neat_keepingWith hAct (hw.cons x)

theorem neat_onNewFlow {act : Nat → Action α} (hAct : ∀ flow, Relates KeepsNeat (act flow)) :
    Relates KeepsNeat (onNewFlow act) := fun _ hw =>
  neat_endFlow (hAct _ _ (neat_beginFlow hw)) _

variable {run : Runner} (hRun : ∀ flow body, Relates KeepsNeat (run flow body))
include hRun

theorem neat_callWork (flow : Nat) (name : String) :
    Relates KeepsNeat (callWork run flow name) := by
  intro w
  refine leads_named fun work hGet => ?_
  split
  · exact fun hw => neat_underWith (hRun flow work.body) (neatWith_eraseWork hw hGet) flow
  · exact neat_keeping (neat_under (hRun flow work.body) flow work.context) _ w

theorem neat_callTogether (name : String) (count : Nat) :
    Relates KeepsNeat (callTogether run name count) := by
  induction count with
  | zero => exact (readsOnly_pure _).relates
  | succ count ih =>
    exact (neat_onNewFlow fun flow => neat_callWork hRun flow name).bind fun _ => ih.bind fun _ =>
      (readsOnly_pure _).relates

theorem neat_runMode (flow : Nat) (mode : RunMode) (cx : Context) (body : Body) :
    Relates KeepsNeat (match mode with
      | .inline => keeping (.context cx) (under flow cx (run flow body))
      | .thread => keeping (.context cx) (onNewFlow fun other => under other cx (run other body))
      | .queue => do
        modify fun w => { w with queue := w.queue ++ [(cx, body)] }
        return .none) := by
  cases mode with
  | inline => exact neat_keeping (neat_under (hRun flow body) flow cx) _
  | thread =>
    exact neat_keeping (neat_onNewFlow fun other => neat_under (hRun other body) other cx) _
  | queue =>
    exact (relates_modify fun w => neat_enqueue (cx, body) w).bind
      fun _ => (readsOnly_pure _).relates

theorem neat_execute (flow : Nat) (name : String) (body : Body) :
    Relates KeepsNeat (execute run flow name body) := by
  refine (readsOnly_named _ name).relates.bind fun executor => ?_
  cases executor.context? with
  | none =>
    exact (readsOnly_ask _).relates.bind fun cx => neat_runMode hRun flow executor.mode cx body
  | some cx => exact neat_runMode hRun flow executor.mode cx body

theorem neat_runQueue (flow fuel : Nat) : Relates KeepsNeat (runQueue run flow fuel) := by
  induction fuel with
  | zero => exact (readsOnly_throw _).relates
  | succ fuel ih =>
    intro w hw
    rcases hQueue : w.queue with _ | ⟨⟨cx, body⟩, rest⟩
    · rw [runQueue_nil run flow fuel hQueue]
      exact hw
    · rw [runQueue_cons run flow fuel hQueue]
      have hFirst := neat_underWith (hRun flow body) (neatWith_dequeue hw hQueue) flow
      exact neat_bind hFirst fun first => ih.bind fun others =>
        (readsOnly_pure (first :: others)).relates

theorem neat_poll (flow : Nat) (name : String) : Relates KeepsNeat (poll run flow name) := by
  refine (readsOnly_named _ name).relates.bind fun future => ?_
  split
  · exact (neat_underOptional (readsOnly_pure _).relates flow _).bind fun _ =>
      (readsOnly_pure _).relates
  · rename_i body rest _
    have hTaken := neat_modifyFuture name (f := fun x => { x with rest := rest }) fun _ => rfl
    have hCounted := neat_modifyFuture name (f := fun x => { x with finished := x.finished + 1 })
      fun _ => rfl
    refine (relates_modify hTaken).bind fun _ =>
      (neat_underOptional (hRun flow body) flow _).bind fun ran => ?_
    split
    · exact (readsOnly_pure _).relates
    · exact (relates_modify hCounted).bind fun _ => (readsOnly_pure _).relates

theorem neat_pollNext (flow : Nat) (name : String) :
    Relates KeepsNeat (pollNext run flow name) := by
  refine (readsOnly_named _ name).relates.bind fun stream => ?_
  split
  · exact (neat_underOptional (readsOnly_pure _).relates flow _).bind fun _ =>
      (readsOnly_pure _).relates
  · rename_i item rest _
    have hTaken := neat_modifyStream name (f := fun x => { x with rest := rest }) fun _ => rfl
    have hCounted := neat_modifyStream name (f := fun x => { x with yielded := x.yielded + 1 })
      fun _ => rfl
    refine (relates_modify hTaken).bind fun _ =>
      (neat_underOptional (hRun flow item.body) flow _).bind fun ran => ?_
    split
    · exact (readsOnly_pure _).relates
    · exact (relates_modify hCounted).bind fun _ => (readsOnly_pure _).relates

theorem neat_callSink (flow : Nat) (name : String) (call : SinkCall) :
    Relates KeepsNeat (callSink run flow name call) := by
  intro w
  refine leads_named fun sink hGet => ?_
  refine trans_of KeepsNeat (neat_sum hGet (sumAfter sink.sum call)) ?_
  exact ((neat_underOptional (hRun flow sink.body) flow sink.context?).bind fun _ =>
    (readsOnly_pure _).relates) _

/-- The context that a body is given is held while the body runs, and its span with it. -/
theorem neat_runInside (flow : Nat) (body : Body) (target? : Option String)
    {w : State} {cx : Context}
    (hw : NeatWith [.context cx] w) : Neat (runInside run flow cx body target? w).2 := by
  have hRan : Relates KeepsNeat (do
      let ran ← run flow body
      if ran.failure?.isNone then
        passOn fun t => t.callActive cx.activeSpan (.finish t.now)
      return ran : Action Run) := by
    refine (hRun flow body).bind fun ran => ?_
    split
    · exact ((relates_passOn _).keepsNeat (mild_callActive _ .finish)).bind fun _ =>
        (readsOnly_pure _).relates
    · exact (readsOnly_pure _).relates
  refine neat_keepingWith (neat_under ?_ flow cx) hw
  cases target? with
  | none => exact hRan
  | some target =>
    have hStored := (relates_storeContext target cx).keepsNeat (mild_storeContext target cx)
    exact (hStored.map _).bind fun _ => hRan

/-- The span that is started is loose until the context that carries it is kept alive. -/
theorem neat_inSpan (flow : Nat) (tracer name : String) (body : Body) (target? : Option String) :
    Relates KeepsNeat (inSpan run flow tracer name body target?) := by
  intro w
  refine leads_named fun t _ hw => ?_
  have hStarted : NeatWith [.context (w.given flow t name)] (w.started flow t name) :=
    neatWith_of (hw.numbered.congr rfl) (keyed_started name hw.keyed) hw.distinct hw.spans
      (calm_started name hw.keyed hw.calm_holdings)
  exact neat_unpin (neat_runInside hRun flow body target? hStarted) w.supply

/-- What bodies keep neat, steps keep neat. -/
theorem neat_perform (fuel flow : Nat) (s : Step) :
    Relates KeepsNeat (perform run fuel flow s) := by
  cases s with
  | key target name => exact (relates_makeKey target name).keepsNeat (mild_makeKey target name)
  | copyKey target key => exact (relates_copyKey target key).keepsNeat (mild_copyKey target key)
  | sameKey a b =>
    exact ((readsOnly_named _ a).bind fun _ => (readsOnly_named _ b).bind fun _ =>
      readsOnly_pure _).relates
  | describeKey key => exact ((readsOnly_named _ key).bind fun _ => readsOnly_pure _).relates
  | share target value => exact (relates_share target value).keepsNeat (mild_share target value)
  | root target => exact (relates_storeContext target _).keepsNeat (mild_storeContext target _)
  | copy target cx =>
    exact (readsOnly_named _ cx).relates.bind fun _ =>
      (relates_storeContext target _).keepsNeat (mild_storeContext target _)
  | bind target cx? key value =>
    exact (relates_bind flow target cx? key value).keepsNeat (mild_bind flow target cx? key value)
  | bindShared target cx key shared =>
    exact (relates_bindShared target cx key shared).keepsNeat (mild_bindShared target cx key shared)
  | current target =>
    exact (readsOnly_contextOr flow none).relates.bind fun _ =>
      (relates_storeContext target _).keepsNeat (mild_storeContext target _)
  | read cx? key =>
    exact ((readsOnly_contextOr flow cx?).bind fun _ => (readsOnly_named _ key).bind fun _ =>
      readsOnly_pure _).relates
  | readAll cx => exact (readsOnly_readAll cx).relates
  | readShared cx key => exact (readsOnly_readShared cx key).relates
  | sameContext a b =>
    exact ((readsOnly_named _ a).bind fun _ => (readsOnly_named _ b).bind fun _ =>
      readsOnly_pure _).relates
  | size cx => exact ((readsOnly_named _ cx).bind fun _ => readsOnly_pure _).relates
  | describe cx => exact ((readsOnly_named _ cx).bind fun _ => readsOnly_pure _).relates
  | attach cx guard =>
    exact (readsOnly_named _ cx).relates.bind fun cx _ hw => neat_attach (hw.cons _) flow guard
  | close guard => exact neat_closeNamed flow guard
  | describeGuard guard => exact (readsOnly_describeGuard flow guard).relates
  | fail message => exact (readsOnly_throw _).relates
  | thread body =>
    exact (neat_onNewFlow fun other => hRun other body).bind fun _ => (readsOnly_pure _).relates
  | installStorage => exact (readsOnly_pure _).relates
  | wrap target cx? body once =>
    exact (readsOnly_contextOr flow cx?).relates.bind fun cx =>
      relates_change fun w => neat_nameWork w target ⟨cx, body, once⟩
  | call work => exact (neat_callWork hRun flow work).bind fun _ => (readsOnly_pure _).relates
  | callTogether work count =>
    exact (neat_callTogether hRun work count).bind fun _ => (readsOnly_pure _).relates
  | executor target cx? mode => exact neat_makeExecutor target cx? mode
  | execute executor body =>
    exact (neat_execute hRun flow executor body).bind fun _ => (readsOnly_pure _).relates
  | runQueue => exact (neat_runQueue hRun flow fuel).bind fun _ => (readsOnly_pure _).relates
  | future target cx? polls =>
    exact (readsOnly_contextOr flow cx?).relates.bind fun cx =>
      relates_change fun w => neat_nameFuture w target ⟨some cx, polls, 0⟩
  | poll future => exact neat_poll hRun flow future
  | stream target cx? items =>
    exact (readsOnly_contextOr flow cx?).relates.bind fun cx =>
      relates_change fun w => neat_nameStream w target ⟨some cx, items, 0⟩
  | pollNext stream => exact neat_pollNext hRun flow stream
  | sink target cx? body failing? =>
    exact (readsOnly_contextOr flow cx?).relates.bind fun cx =>
      relates_change fun w => neat_nameSink w target ⟨some cx, body, failing?, 0⟩
  | callSink sink call => exact neat_callSink hRun flow sink call
  | takeOff kind name => exact neat_takeOff kind name
  | elapse now => exact (relates_elapse now).keepsNeat (mild_elapse now)
  | request id => exact relates_change fun _ hw =>
    neat_modifyFlow hw flow fun f => { f with request := id }
  | hostGet target =>
    exact (readsOnly_ask _).relates.bind fun _ =>
      (relates_storeContext target _).keepsNeat (mild_storeContext target _)
  | hostSet cx =>
    exact (readsOnly_named _ cx).relates.bind fun cx =>
      relates_change fun w hw => neat_replace hw (w.hostSlot flow) cx
  | inertSpan target sc =>
    exact (relates_makeInert target sc).keepsNeat (relates_change fun w => mild_addSpan target _ w)
  | journaledSpan target sc =>
    exact (relates_makeJournaled target sc).keepsNeat (mild_makeJournaled target sc)
  | readJournal span => exact (relates_readJournal span).keepsNeat (mild_readJournal span)
  | boxSpan span => exact (relates_boxSpan span).keepsNeat (mild_boxSpan span)
  | remote target cx sc =>
    exact (relates_makeRemote target cx sc).keepsNeat (mild_makeRemote target cx sc)
  | withSpan target cx? span =>
    exact (relates_withSpan flow target cx? span).keepsNeat (mild_withSpan flow target cx? span)
  | markActive guard span => exact neat_markActive flow guard span
  | hasSpan cx => exact ((readsOnly_named _ cx).bind fun _ => readsOnly_pure _).relates
  | callSpan on call => exact (relates_callOn flow on call).keepsNeat (mild_callOn flow on call)
  | isRecording on => exact ((readsOnly_isRecording flow on).bind fun _ => readsOnly_pure _).relates
  | spanContext on => exact ((readsOnly_identityOf flow on).bind fun _ => readsOnly_pure _).relates
  | describeSpan on => exact (readsOnly_describeOn flow on).relates
  | carrier target kind items =>
    exact (relates_putCarrier target _).keepsNeat (relates_change fun _ => ⟨rfl, id, id⟩)
  | setCarrier carrier name value =>
    exact (relates_setCarrier carrier name value).keepsNeat (mild_setCarrier carrier name value)
  | readCarrier carrier name =>
    exact ((readsOnly_named _ carrier).bind fun _ => readsOnly_pure _).relates
  | describeAdapters => exact (readsOnly_pure _).relates
  | propagator target plan described => exact neat_namePropagator target plan described
  | setGlobal plan => exact neat_setGlobal plan
  | globalFields => exact ((readsOnly_ask _).bind fun _ => readsOnly_pure _).relates
  | inject propagator? carrier cx? =>
    exact (relates_inject flow propagator? carrier cx?).keepsNeat
      (mild_inject flow propagator? carrier cx?)
  | extract target propagator? carrier cx? => exact neat_extract flow target propagator? carrier cx?
  | exporter target kind =>
    exact (relates_makeExporter target kind).keepsNeat (mild_makeExporter target kind)
  | stored exporter =>
    exact ((readsOnly_exporterNamed exporter).bind fun _ => readsOnly_pure _).relates
  | clear exporter => exact (relates_clearExporter exporter).keepsNeat (mild_clearExporter exporter)
  | handed exporter => exact (relates_handedSince exporter).keepsNeat (mild_handedSince exporter)
  | provider target parts described =>
    exact (relates_makeProvider target parts described).keepsNeat
      (mild_makeProvider target parts described)
  | standardProvider target =>
    exact (relates_makeStandardProvider target).keepsNeat (mild_makeStandardProvider target)
  | limitQueries provider =>
    exact ((readsOnly_named _ provider).bind fun _ => readsOnly_ask _).relates
  | copyProvider target provider =>
    exact (relates_copyProvider target provider).keepsNeat (mild_copyProvider target provider)
  | flush provider =>
    exact (relates_onProvider provider Telemetry.flush).keepsNeat (mild_flush provider)
  | shutdown provider =>
    exact (relates_onProvider provider Telemetry.shutdown).keepsNeat (mild_shutdown provider)
  | tracer target provider name =>
    exact (relates_makeTracer target provider name).keepsNeat (mild_makeTracer target provider name)
  | start target tracer name cx? =>
    exact (relates_startSpan flow target tracer name cx?).keepsNeat
      (mild_startSpan flow target tracer name cx?)
  | data span => exact ((readsOnly_named _ span).bind fun _ => readsOnly_ask _).relates
  | inSpan tracer name body target? =>
    exact (neat_inSpan hRun flow tracer name body target?).bind fun _ => (readsOnly_pure _).relates
  | release kind name => exact neat_release kind name

end Running

/-! ## Runs -/

theorem neat_takeLog {w : State} (hw : Neat w) : Neat w.takeLog.2 :=
  ⟨hw.numbered.congr rfl, ⟨hw.keyed.guards, hw.keyed.pins, hw.keyed.slots⟩, hw.distinct, hw.spans,
    hw.calm.congr rfl rfl⟩

theorem neat_performWith (fuel flow : Nat) (s : Step) :
    Relates KeepsNeat (performWith fuel flow s) := fun _ hw =>
  preserved_performWith (fun _ h => neat_takeLog h)
    (fun flow guard _ h => neat_closeScope h flow guard)
    (fun _ hRun => neat_perform hRun) fuel flow s hw

theorem neat_initial (byRequest : Bool) (environment : Surroundings) :
    Neat (World.initial byRequest environment) := by
  have hNone : ∀ {κ β : Type} [DecidableEq κ], Assoc.Unhidden ([] : Assoc κ β) :=
    fun _ hx => absurd hx List.not_mem_nil
  constructor
  case numbered => exact ⟨advances_noop, fun _ hp => absurd hp List.not_mem_nil⟩
  case keyed =>
    exact ⟨fun _ hg => absurd hg List.not_mem_nil,
      fun _ hPin => absurd hPin List.not_mem_nil, hNone⟩
  case distinct => exact ⟨hNone, hNone, hNone, hNone⟩
  case spans => exact hNone
  case calm =>
    constructor
    · intro id s hSpan
      cases hSpan
    · intro i q hProvider
      cases hProvider

/-- **Nothing is loose.** Whatever a script has done, on whatever flow and to whatever depth, its
session is tidy before the next step. -/
theorem tidy_run (fuel flow : Nat) (body : Body) (byRequest : Bool)
    (environment : Surroundings) :
    Tidy (runSteps (performWith fuel flow) flow body (World.initial byRequest environment)).2 := by
  have hNeat :=
    preserved_runSteps (fun _ h => neat_takeLog h) (neat_performWith fuel flow) flow body
    (neat_initial byRequest environment)
  have hBacked := preserved_runSteps (P := Backed .any) (fun _ h => h.takeLog)
    (keeps_performWith fuel flow) flow body
    (backed_initial _ byRequest environment)
  exact tidy_of_backed hBacked hNeat.keyed hNeat.calm_holdings

end Script

end SpanFlow
