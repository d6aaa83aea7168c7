import SpanFlow.Proofs.Script.Layers
import SpanFlow.Proofs.Session.Moves

/-!
# Scripts make moves

The steps of a script that look at current contexts, change them or bind the flow anew are moves.
Work that runs under a context is two, one at its beginning and one at its end, with the moves of
its body between them. What a script keeps beside, names and what is alive, has no part in this: a
scene shows a session if they agree in slots, guards and requests, and if the guards that flows hold
in the scene under names are those that the script knows.

## Main results

* `shows_perform`: a step makes its move, with the warnings of this.
* `shows_runSteps`, `shows_runBody`: a body of such steps makes a run.
* `shows_under`: work under a context.
-/

namespace SpanFlow

namespace Session

open Scene

variable {β : Type}

/-! ## Scenes and sessions -/

/-- Two sessions agree in all that moves depend on. -/
structure Agrees (v w : World β) : Prop where
  supply_eq : w.supply = v.supply
  byRequest_eq : w.byRequest = v.byRequest
  slots_eq : w.slots = v.slots
  guards_eq : w.guards = v.guards
  request_eq : ∀ flow, (w.flow flow).request = (v.flow flow).request

/-- What a held guard is among the named guards of a flow. -/
def scopeOf? (flow : Nat) (h : Hold) : Option OpenScope :=
  match h.holder with
  | .scope name => if h.flow = flow then some ⟨name, h.guard⟩ else none
  | .call => none

/-- A scene agrees with a session, and so do the guards that are held in it with the named ones. -/
structure Shows (s : Scene β) (w : World β) : Prop extends Agrees s.world w where
  scopes_eq : ∀ flow, (w.flow flow).scopes = s.holds.filterMap (scopeOf? flow)

namespace Agrees

variable {v w : World β}

theorem hostSlot_eq (h : Agrees v w) (flow : Nat) : w.hostSlot flow = v.hostSlot flow := by
  rw [World.hostSlot, World.hostSlot, h.request_eq]

theorem slotOf_eq (h : Agrees v w) (flow : Nat) : w.slotOf flow = v.slotOf flow := by
  rw [World.slotOf, World.slotOf, h.byRequest_eq, h.hostSlot_eq]

theorem current_eq (h : Agrees v w) (flow : Nat) : w.current flow = v.current flow := by
  rw [World.current, World.current, h.slotOf_eq, h.slots_eq]

theorem openGuard (h : Agrees v w) (flow : Nat) (cx : Context) :
    Agrees (v.openGuard flow cx).2 (w.openGuard flow cx).2 where
  supply_eq := congrArg (· + 1) h.supply_eq
  byRequest_eq := h.byRequest_eq
  slots_eq := by rw [World.slots_openGuard, World.slots_openGuard, h.slotOf_eq, h.slots_eq]
  guards_eq := by
    show Assoc.insert w.guards w.supply (Guard.of (w.current flow) cx) =
      Assoc.insert v.guards v.supply (Guard.of (v.current flow) cx)
    rw [h.guards_eq, h.supply_eq, h.current_eq]
  request_eq := h.request_eq

theorem closeGuard (h : Agrees v w) {id : Nat} {g : Guard}
    (hGuard : Assoc.get? v.guards id = some g) (flow : Nat) :
    Agrees (v.closeGuard flow id) (w.closeGuard flow id) := by
  obtain ⟨t, hClosed⟩ := World.closeGuard_eq flow hGuard
  obtain ⟨t', hClosed'⟩ := World.closeGuard_eq (w := w) flow (h.guards_eq ▸ hGuard)
  rw [hClosed, hClosed', h.slotOf_eq, h.slots_eq, h.guards_eq]
  exact ⟨h.supply_eq, h.byRequest_eq, rfl, rfl, h.request_eq⟩

/-- Flows are bound in both sessions. -/
theorem rebind (h : Agrees v w) (flow request : Nat) :
    Agrees (v.modifyFlow flow fun f => { f with request := request })
      (w.modifyFlow flow fun f => { f with request := request }) := by
  refine ⟨h.supply_eq, h.byRequest_eq, h.slots_eq, h.guards_eq, fun other => ?_⟩
  rw [World.flow_modifyFlow, World.flow_modifyFlow]
  split
  · rfl
  · exact h.request_eq other

/-- The named guards of a flow have no part in this. -/
theorem modifyFlow (h : Agrees v w) {f : Flow → Flow} (hRequest : ∀ x, (f x).request = x.request)
    (flow : Nat) : Agrees v (w.modifyFlow flow f) := by
  refine ⟨h.supply_eq, h.byRequest_eq, h.slots_eq, h.guards_eq, fun other => ?_⟩
  rw [World.flow_modifyFlow]
  split
  · rename_i hOther
    rw [hRequest, h.request_eq, hOther]
  · exact h.request_eq other

end Agrees

theorem shows_initial (byRequest : Bool) (environment : Surroundings) :
    Shows (⟨.initial byRequest environment, []⟩ : Scene β) (.initial byRequest environment) where
  supply_eq := rfl
  byRequest_eq := rfl
  slots_eq := rfl
  guards_eq := rfl
  request_eq _ := rfl
  scopes_eq flow := by
    show ((Assoc.get? [(World.firstFlow, Flow.fresh)] flow).getD .fresh).scopes = []
    rw [Assoc.get?_cons]
    split <;> rfl

/-! ## Names of guards -/

section Names

variable {s : Scene β} {flow : Nat} {holder : Holder} {h : Hold}

theorem scopeOf?_of_ne {other : Nat} (hNe : h.flow ≠ other) : scopeOf? other h = none := by
  unfold scopeOf?
  split
  · exact if_neg hNe
  · rfl

theorem scopeOf?_of_isOf {name : String} (hOf : h.isOf flow (.scope name) = true) :
    scopeOf? flow h = some ⟨name, h.guard⟩ := by
  obtain ⟨hFlow, hHolder⟩ : h.flow = flow ∧ h.holder = .scope name := by
    simpa [Hold.isOf] using hOf
  simp [scopeOf?, hFlow, hHolder]

theorem guard_of_scopeOf? {x : OpenScope} (hx : scopeOf? flow h = some x) : x.guard = h.guard := by
  unfold scopeOf? at hx
  split at hx
  · split at hx <;> cases hx
    rfl
  · cases hx

/-- The youngest guard of a name is the one that is held for it. -/
theorem find?_scopes (s : Scene β) (flow : Nat) (name : String) :
    (s.holds.filterMap (scopeOf? flow)).find? (fun x => x.name == name) =
      (s.held? flow (.scope name)).map fun h => ⟨name, h.guard⟩ := by
  have hSame : (fun h : Hold => (scopeOf? flow h).any fun x => x.name == name) =
      fun h => h.isOf flow (.scope name) := by
    funext ⟨other, holder, guard, home⟩
    cases holder with
    | call => simp [scopeOf?, Hold.isOf]
    | scope given => by_cases hFlow : other = flow <;> simp [scopeOf?, Hold.isOf, hFlow]
  rw [List.find?_filterMap, hSame]
  show (s.held? flow (.scope name)).bind _ = _
  cases hHeld : s.held? flow (.scope name) with
  | none => rfl
  | some h => exact scopeOf?_of_isOf (isOf_of_held? hHeld)

/-- A guard that is not a named one of a flow can be taken out and leaves these as they are. -/
theorem scopes_eraseP_of_none {other : Nat} (hHeld : s.held? flow holder = some h)
    (hNone : scopeOf? other h = none) :
    (s.holds.eraseP (·.isOf flow holder)).filterMap (scopeOf? other) =
      s.holds.filterMap (scopeOf? other) := by
  obtain ⟨younger, older, hSplit, -, hErase⟩ := holds_split hHeld
  rw [hErase, hSplit, List.filterMap_append, List.filterMap_append,
    List.filterMap_cons_none hNone]

/-- A guard is taken out by its name or by its number. -/
theorem scopes_eraseP (hs : s.Ordered) (hHeld : s.held? flow holder = some h) {x : OpenScope}
    (hx : scopeOf? flow h = some x) :
    (s.holds.eraseP (·.isOf flow holder)).filterMap (scopeOf? flow) =
      (s.holds.filterMap (scopeOf? flow)).filter fun y => y.guard != h.guard := by
  have hOthers : ((s.holds.eraseP (·.isOf flow holder)).filterMap (scopeOf? flow)).filter
      (fun y => y.guard != h.guard) =
      (s.holds.eraseP (·.isOf flow holder)).filterMap (scopeOf? flow) := by
    refine List.filter_eq_self.2 fun y hy => ?_
    obtain ⟨z, hz, hScope⟩ := List.mem_filterMap.1 hy
    rw [guard_of_scopeOf? hScope]
    exact bne_iff_ne.2 (guard_ne_of_mem_eraseP hs hHeld z hz)
  obtain ⟨younger, older, hSplit, -, hErase⟩ := holds_split hHeld
  rw [← hOthers, hErase, hSplit, List.filterMap_append, List.filterMap_append,
    List.filterMap_cons_some hx, List.filter_append, List.filter_append,
    List.filter_cons_of_neg (by simp [guard_of_scopeOf? hx])]

theorem pairwise_scopes (hs : s.Ordered) (flow : Nat) :
    (s.holds.filterMap (scopeOf? flow)).Pairwise fun x y => x.guard ≠ y.guard := by
  refine List.pairwise_filterMap.2 ((List.pairwise_map.1 hs.nodup_guards).imp ?_)
  intro h h' hNe x hx y hy
  rwa [guard_of_scopeOf? hx, guard_of_scopeOf? hy]

end Names

end Session

namespace Script

open Session Scene

variable {s : Scene Body} {w : State} {flow : Nat}

/-! ## The moves of steps -/

theorem shows_attach (h : Shows s w) (flow : Nat) (cx : Context) (guard : String) :
    Shows (s.move flow (.attach (.scope guard) cx)) (attach flow cx guard w).2 where
  toAgrees :=
    (h.openGuard flow cx).modifyFlow
      (f := fun f => { f with scopes := ⟨guard, w.supply⟩ :: f.scopes }) (fun _ => rfl) flow
  scopes_eq other := by
    let made : Hold := ⟨flow, .scope guard, s.world.supply, s.world.slotOf flow⟩
    show _ = (made :: s.holds).filterMap (scopeOf? other)
    rw [flow_attach]
    by_cases hOther : flow = other
    · subst hOther
      have hMade : scopeOf? flow made = some ⟨guard, s.world.supply⟩ :=
        scopeOf?_of_isOf (by simp [Hold.isOf, made])
      rw [if_pos rfl, List.filterMap_cons_some hMade, h.supply_eq, h.scopes_eq]
    · have hMade : scopeOf? other made = none := scopeOf?_of_ne hOther
      rw [if_neg hOther, List.filterMap_cons_none hMade, h.scopes_eq]

/-- The session in which a guard has just lost its name. -/
def popped (flow : Nat) (guard : Nat) (w : State) : State :=
  w.modifyFlow flow fun f => { f with scopes := f.scopes.filter fun s => s.guard != guard }

theorem closeScope_eq (flow guard : Nat) (w : State) :
    closeScope flow guard w = (popped flow guard w).closeGuard flow guard := rfl

theorem agrees_popped (h : Agrees s.world w) (flow guard : Nat) :
    Agrees s.world (popped flow guard w) :=
  h.modifyFlow (f := fun f => { f with scopes := f.scopes.filter fun s => s.guard != guard })
    (fun _ => rfl) flow

theorem flow_closeScope (h : Agrees s.world w) {guard : Nat} {g : Guard}
    (hGuard : Assoc.get? s.world.guards guard = some g) (flow other : Nat) :
    (closeScope flow guard w).flow other =
      if flow = other
      then { w.flow flow with scopes := (w.flow flow).scopes.filter fun s => s.guard != guard }
      else w.flow other := by
  have hPopped := agrees_popped h flow guard
  rw [closeScope_eq, World.flow, World.flows_closeGuard flow (hPopped.guards_eq ▸ hGuard)]
  exact World.flow_modifyFlow w flow _ other

/-- A guard that is held under a name is closed, and its name with it. -/
theorem shows_closeScope (hs : s.Ordered) (h : Shows s w) {name : String} {x : Hold}
    (hHeld : s.held? flow (.scope name) = some x) :
    Shows (s.move flow (.close (.scope name))) (closeScope flow x.guard w) := by
  obtain ⟨g, hGuard⟩ := hs.isOpen x (mem_of_held? hHeld)
  have hOf := isOf_of_held? hHeld
  rw [move_close hHeld]
  refine ⟨(agrees_popped h.toAgrees flow x.guard).closeGuard hGuard flow, fun other => ?_⟩
  rw [flow_closeScope h.toAgrees hGuard]
  by_cases hOther : flow = other
  · subst hOther
    rw [if_pos rfl, scopes_eraseP hs hHeld (scopeOf?_of_isOf hOf), h.scopes_eq]
  · have hNe : x.flow ≠ other := by
      have hOwn : x.flow = flow := by simpa using (Bool.and_eq_true_iff.1 hOf).1
      rwa [hOwn]
    rw [if_neg hOther, scopes_eraseP_of_none hHeld (scopeOf?_of_ne hNe), h.scopes_eq]

/-- A guard that is held for a call is closed. -/
theorem shows_closeGuard (hs : s.Ordered) (h : Shows s w) {x : Hold}
    (hHeld : s.held? flow .call = some x) :
    Shows (s.move flow (.close .call)) (w.closeGuard flow x.guard) := by
  obtain ⟨g, hGuard⟩ := hs.isOpen x (mem_of_held? hHeld)
  have hFlows : (w.closeGuard flow x.guard).flows = w.flows :=
    World.flows_closeGuard flow (h.guards_eq ▸ hGuard)
  have hHolder : x.holder = .call := by
    simpa using (Bool.and_eq_true_iff.1 (isOf_of_held? hHeld)).2
  rw [move_close hHeld]
  refine ⟨h.closeGuard hGuard flow, fun other => ?_⟩
  have hNone : scopeOf? other x = none := by simp [scopeOf?, hHolder]
  rw [scopes_eraseP_of_none hHeld hNone, World.flow, hFlows]
  exact h.scopes_eq other

/-- A guard is closed by its name, if it is held. -/
theorem shows_closeNamed (hs : s.Ordered) (h : Shows s w) (flow : Nat) (name : String) :
    Shows (s.move flow (.close (.scope name))) (closeNamed flow name w).2 ∧
      Telemetry.warned w.telemetry (closeNamed flow name w).2.telemetry =
        s.warnings flow (.close (.scope name)) := by
  have hClose : (closeNamed flow name w).2 =
      (s.held? flow (.scope name)).elim w fun x => closeScope flow x.guard w := by
    rw [closeNamed, bind_apply, scopeNamed_apply, h.scopes_eq, find?_scopes]
    cases s.held? flow (.scope name) <;> rfl
  rw [hClose, warnings_eq hs]
  cases hHeld : s.held? flow (.scope name) with
  | none =>
    rw [move_close_none hHeld]
    exact ⟨h, by simp [Telemetry.warned_self, guard?, hHeld]⟩
  | some x =>
    obtain ⟨g, hGuard⟩ := hs.isOpen x (mem_of_held? hHeld)
    have hPopped := agrees_popped h.toAgrees flow x.guard
    have hWarned := World.warned_closeGuard (hPopped.guards_eq ▸ hGuard) flow
    rw [hPopped.current_eq] at hWarned
    refine ⟨shows_closeScope hs h hHeld, ?_⟩
    show Telemetry.warned (popped flow x.guard w).telemetry
      ((popped flow x.guard w).closeGuard flow x.guard).telemetry = _
    simpa [guard?, hHeld, hGuard] using hWarned

/-- A flow is bound anew and keeps its named guards. -/
theorem shows_rebind (h : Shows s w) (flow request : Nat) :
    Shows (s.move flow (.rebind request))
      (w.modifyFlow flow fun f => { f with request := request }) where
  toAgrees := h.rebind flow request
  scopes_eq other := by
    rw [World.flow_modifyFlow]
    by_cases hOther : flow = other
    · subst hOther
      rw [if_pos rfl]
      exact h.scopes_eq flow
    · rw [if_neg hOther]
      exact h.scopes_eq other

/-- What a session names, tells and keeps alive is not seen in a scene. -/
theorem shows_of_scoping_eq {w' : State} (h : Shows s w) (hSupply : w'.supply = w.supply)
    (hScoping : w'.scoping = w.scoping) : Shows s w' := by
  have hFlows : w'.flows = w.flows := congrArg Scoping.flows hScoping
  have hFlow : ∀ flow, w'.flow flow = w.flow flow := fun flow => by rw [World.flow, hFlows]; rfl
  refine ⟨⟨hSupply.trans h.supply_eq, ?_, ?_, ?_, fun flow => ?_⟩, fun flow => ?_⟩
  · exact (congrArg Scoping.byRequest hScoping).trans h.byRequest_eq
  · exact (congrArg Scoping.slots hScoping).trans h.slots_eq
  · exact (congrArg Scoping.guards hScoping).trans h.guards_eq
  · rw [hFlow, h.request_eq]
  · rw [hFlow, h.scopes_eq]

/-- Whether a step makes a move, if the context that it names is there. -/
def Step.isMove : Step → Bool
  | .current _ | .attach _ _ | .close _ | .hostGet _ | .hostSet _ | .request _ => true
  | _ => false

/-- The move that a step makes. -/
def moveOf? (w : State) : Step → Option Session.Move
  | .current _ => some .read
  | .attach cx guard => (Assoc.get? w.contexts cx).map (.attach (.scope guard))
  | .close guard => some (.close (.scope guard))
  | .hostGet _ => some .hostGet
  | .hostSet cx => (Assoc.get? w.contexts cx).map .hostSet
  | .request id => some (.rebind id)
  | _ => none

/-- A step that names a context that is not there does nothing. -/
theorem perform_of_moveOf?_none (run : Runner) (fuel flow : Nat) {step : Step}
    (hStep : step.isMove = true) (hNone : moveOf? w step = none) :
    (perform run fuel flow step w).2 = w := by
  cases step with
  | attach cx guard =>
    have hCx : Assoc.get? w.contexts cx = none := Option.map_eq_none_iff.1 hNone
    simp [perform, bind_apply, named_apply, hCx]
  | hostSet cx =>
    have hCx : Assoc.get? w.contexts cx = none := Option.map_eq_none_iff.1 hNone
    simp [perform, bind_apply, named_apply, hCx]
  | current | close | hostGet | request => cases hNone
  | _ => cases hStep

/-- A step makes its move, with the warnings of this. -/
theorem shows_perform (hs : s.Ordered) (h : Shows s w) (run : Runner) (fuel flow : Nat)
    {step : Step} {m : Session.Move} (hMove : moveOf? w step = some m) :
    Shows (s.move flow m) (perform run fuel flow step w).2 ∧
      Telemetry.warned w.telemetry (perform run fuel flow step w).2.telemetry =
        s.warnings flow m := by
  cases step with
  | close name =>
    cases hMove
    exact shows_closeNamed hs h flow name
  | current target =>
    cases hMove
    rw [warnings_eq hs]
    exact ⟨shows_of_scoping_eq h rfl rfl, (Telemetry.warns_settle _ _).warned_eq⟩
  | hostGet target =>
    cases hMove
    rw [warnings_eq hs]
    exact ⟨shows_of_scoping_eq h rfl rfl, (Telemetry.warns_settle _ _).warned_eq⟩
  | request id =>
    cases hMove
    rw [warnings_eq hs]
    exact ⟨shows_rebind h flow id, Telemetry.warned_self _⟩
  | attach name guard =>
    obtain ⟨cx, hCx, rfl⟩ := Option.map_eq_some_iff.1 hMove
    have hStep : (perform run fuel flow (.attach name guard) w).2 = (attach flow cx guard w).2 := by
      rw [perform, bind_apply, named_apply, hCx]
    rw [hStep, warnings_eq hs]
    exact ⟨shows_attach h flow cx guard, Telemetry.warned_self _⟩
  | hostSet name =>
    obtain ⟨cx, hCx, rfl⟩ := Option.map_eq_some_iff.1 hMove
    let slots := w.slots.replace (w.hostSlot flow) cx
    have hStep :
        (perform run fuel flow (.hostSet name) w).2 = { w with slots := slots }.settle := by
      rw [perform, bind_apply, named_apply, hCx]
      rfl
    have hSlots : slots = s.world.slots.replace (s.world.hostSlot flow) cx := by
      rw [← h.slots_eq, ← h.hostSlot_eq]
    rw [hStep, warnings_eq hs]
    exact ⟨⟨⟨h.supply_eq, h.byRequest_eq, hSlots, h.guards_eq, h.request_eq⟩, h.scopes_eq⟩,
      (Telemetry.warns_settle _ _).warned_eq⟩
  | _ => cases hMove

/-! ## Runs of bodies -/

/-- The moves that steps make, up to the first that halts. -/
def movesOf (act : Step → Action Result) (flow : Nat) : Body → State → List Session.Move
  | [], _ => []
  | step :: rest, w =>
    (moveOf? w step).toList ++
      match act step w with
      | (.error _, _) => []
      | (.ok r, w) => movesOf act flow rest (report flow r w).2

/-- Steps that are moves, one after another. -/
theorem shows_runSteps (hs : s.Ordered) (h : Shows s w) (run : Runner) (fuel flow : Nat)
    {body : Body} (hBody : ∀ step ∈ body, step.isMove = true) :
    let moves := movesOf (perform run fuel flow) flow body w
    Shows (s.after (moves.map fun m => (flow, m)))
      (runSteps (perform run fuel flow) flow body w).2 := by
  induction body generalizing s w with
  | nil => exact h
  | cons step rest ih =>
    obtain ⟨hStep, hRest⟩ := List.forall_mem_cons.1 hBody
    have hFirst : Shows (s.after ((moveOf? w step).toList.map fun m => (flow, m)))
        (perform run fuel flow step w).2 := by
      cases hMove : moveOf? w step with
      | none =>
        rw [perform_of_moveOf?_none run fuel flow hStep hMove]
        exact h
      | some m => exact (shows_perform hs h run fuel flow hMove).1
    intro moves
    simp only [moves, movesOf, runSteps, List.map_append, after_append]
    rcases hRan : perform run fuel flow step w with ⟨halt | r, w'⟩
    · rw [hRan] at hFirst
      exact hFirst
    · rw [hRan] at hFirst
      exact ih (hs.after _) (shows_of_scoping_eq hFirst rfl rfl) hRest

/-- Guards are closed, the youngest first. -/
theorem shows_closeEach (hs : s.Ordered) (h : Shows s w) {youngest older : List OpenScope}
    (hScopes : (w.flow flow).scopes = youngest ++ older) :
    Shows (s.after (youngest.map fun x => (flow, .close (.scope x.name))))
      (youngest.foldl (fun w s => closeScope flow s.guard w) w) := by
  induction youngest generalizing s w with
  | nil => exact h
  | cons x rest ih =>
    have hFound := find?_scopes s flow x.name
    rw [← h.scopes_eq, hScopes, List.cons_append, List.find?_cons_of_pos (by simp)] at hFound
    obtain ⟨hold, hHeld, hName⟩ := Option.map_eq_some_iff.1 hFound.symm
    have hNumber : hold.guard = x.guard := congrArg OpenScope.guard hName
    obtain ⟨g, hGuard⟩ := hs.isOpen hold (mem_of_held? hHeld)
    have hOlder : ((closeScope flow x.guard w).flow flow).scopes = rest ++ older := by
      have hPairwise := pairwise_scopes hs flow
      rw [← h.scopes_eq, hScopes, List.cons_append, List.pairwise_cons] at hPairwise
      rw [flow_closeScope h.toAgrees (hNumber ▸ hGuard), if_pos rfl, hScopes, List.cons_append,
        List.filter_cons_of_neg (by simp), List.filter_eq_self.2]
      exact fun y hy => bne_iff_ne.2 (hPairwise.1 y hy).symm
    have hShown := shows_closeScope hs h hHeld
    rw [hNumber] at hShown
    exact ih (hs.move flow _) hShown hOlder

/-- A body of steps that are moves, with the closing of what it has left open. -/
theorem shows_runBody (hs : s.Ordered) (h : Shows s w) (run : Runner) (fuel flow : Nat)
    {body : Body} (hBody : ∀ step ∈ body, step.isMove = true) :
    let ran := (runSteps (perform run fuel flow) flow body w).2
    let left := (ran.flow flow).scopes.take (openCount flow ran - openCount flow w)
    let moves := movesOf (perform run fuel flow) flow body w ++
      left.map fun x => .close (.scope x.name)
    Shows (s.after (moves.map fun m => (flow, m))) (runBody (perform run fuel) flow body w).2 := by
  intro ran left moves
  have hRan := shows_runSteps hs h run fuel flow hBody
  have hClosed := shows_closeEach (hs.after _) hRan
    (List.take_append_drop (openCount flow ran - openCount flow w) (ran.flow flow).scopes).symm
  rw [snd_runBody, List.map_append, after_append, List.map_map]
  exact hClosed

/-- Work under a context begins and ends with a move, if what it does between leaves its guard to
it. -/
theorem shows_under (h : Shows s w) {cx : Context} {act : Action α}
    {moves : List (Nat × Session.Move)}
    (hAct : let opened := s.move flow (.attach .call cx)
      Shows opened (w.openGuard flow cx).2 →
        (opened.after moves).Ordered ∧ Shows (opened.after moves) (act (w.openGuard flow cx).2).2 ∧
        ((opened.after moves).held? flow .call).map Hold.guard = some w.supply) :
    Shows (s.after ((flow, .attach .call cx) :: moves ++ [(flow, .close .call)]))
      (under flow cx act w).2 := by
  obtain ⟨hOrdered, hShown, hKept⟩ := hAct ⟨h.openGuard flow cx, h.scopes_eq⟩
  obtain ⟨hold, hHeld, hNumber⟩ := Option.map_eq_some_iff.1 hKept
  have hClosed := shows_closeGuard hOrdered hShown hHeld
  rw [hNumber] at hClosed
  rw [after_append]
  exact hClosed

end Script

end SpanFlow
