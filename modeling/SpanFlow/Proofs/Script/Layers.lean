import SpanFlow.Proofs.Script.Beside
import SpanFlow.Proofs.Script.Heeding

/-!
# Well-nested bodies

While a well-nested body runs, the session is like a pile: each guard that the body has opened and
not closed is a layer, and what is under a layer is intact but for the guard. So closing the
youngest guard takes the topmost layer off, by the bracket lemma, and when the body is done all
layers are taken off.

On other flows anything goes. They were begun later, with slots of their own, so nothing that
happens there is seen on earlier flows.

`Undisturbed` puts both together. It is a lasting relation, so what it says of the bodies that a
step runs it says of the step, and the depth to which bodies run bodies is an induction.

## Main results

* `Layered.close`: closing the youngest guard takes off the topmost layer.
* `undisturbed_runHeeding`: a body that is run under the rule leaves earlier flows undisturbed.
* `intact_of_wellNested`: a well-nested body leaves everything intact.
-/

namespace SpanFlow.Script

open Session

variable {α : Type} {on : Nat}

/-! ## Steps that make work -/

theorem relates_making (run : Runner) (fuel flow : Nat) {s : Step} (h : s.makes? ≠ none) :
    Relates Still (perform run fuel flow s) := by
  have hSame : ∀ {w w' : State}, w'.scoping = w.scoping → w'.supply = w.supply →
      propagation w' = propagation w → Still w w' := fun hScoping hSupply hPropagation =>
    ⟨hScoping, fun hw => ⟨hw.congr hPropagation, Nat.le_of_eq hSupply.symm⟩⟩
  cases s with
  | wrap target cx? body once =>
    exact (readsOnly_contextOr flow cx?).relates.bind fun _ =>
      relates_change fun _ => hSame rfl rfl rfl
  | executor target cx? mode =>
    have hRead : Relates Still (cx?.mapM (named World.contexts)) := by
      cases cx? with
      | none => exact (readsOnly_pure _).relates
      | some name => exact (readsOnly_named World.contexts name).relates.map some
    refine hRead.bind fun context? => ?_
    cases context? <;> exact relates_change fun _ => hSame rfl rfl rfl
  | future target cx? polls =>
    exact (readsOnly_contextOr flow cx?).relates.bind fun _ =>
      relates_change fun _ => hSame rfl rfl rfl
  | stream target cx? items =>
    exact (readsOnly_contextOr flow cx?).relates.bind fun _ =>
      relates_change fun _ => hSame rfl rfl rfl
  | sink target cx? body failing? =>
    exact (readsOnly_contextOr flow cx?).relates.bind fun _ =>
      relates_change fun _ => hSame rfl rfl rfl
  | takeOff kind name =>
    have hBare : ∀ {f : State → State}, (∀ w, Still w (f w)) →
        Relates Still (do modify f; return .nothing : Action Result) := fun hf =>
      (relates_modify hf).bind fun _ => (readsOnly_pure _).relates
    cases kind <;> exact (readsOnly_named _ name).relates.bind fun _ =>
      hBare fun w => hSame rfl rfl rfl
  | _ => exact absurd rfl h

/-! ## Guards of a flow -/

theorem apart_closeScope {bound flow : Nat} {w : State} (h : Apart bound flow w) {id : Nat}
    (hid : bound ≤ id) :
    Intact bound w (closeScope flow id w) ∧ Apart bound flow (closeScope flow id w) := by
  obtain ⟨hNamed, hApart⟩ := h.modifyFlow
    (f := fun f => { f with scopes := f.scopes.filter fun s => s.guard != id }) (fun _ => rfl)
    fun s hs => .inl (List.mem_of_mem_filter hs)
  obtain ⟨hClosed, hApart⟩ := hApart.closeGuard hid
  exact ⟨hNamed.trans hClosed, hApart⟩

theorem apart_attach {bound flow : Nat} {w : State} (h : Apart bound flow w) (cx : Context)
    (guard : String) :
    Intact bound w (attach flow cx guard w).2 ∧ Apart bound flow (attach flow cx guard w).2 := by
  obtain ⟨hOpened, hApart⟩ := h.openGuard cx
  obtain ⟨hNamed, hApart⟩ := hApart.modifyFlow
    (f := fun f => { f with scopes := ⟨guard, w.supply⟩ :: f.scopes }) (fun _ => rfl) fun s hs => by
      rcases List.mem_cons.1 hs with rfl | hOld
      · exact .inr h.bound_le_supply
      · exact .inl hOld
  exact ⟨hOpened.trans hNamed, hApart⟩

theorem apart_closeEach {bound flow : Nat} {w : State} (h : Apart bound flow w)
    {scopes : List OpenScope} (hScopes : ∀ s ∈ scopes, bound ≤ s.guard) :
    Intact bound w (scopes.foldl (fun w s => closeScope flow s.guard w) w) ∧
      Apart bound flow (scopes.foldl (fun w s => closeScope flow s.guard w) w) := by
  induction scopes generalizing w with
  | nil => exact ⟨.refl, h⟩
  | cons s rest ih =>
    obtain ⟨hFirst, hApart⟩ := apart_closeScope h (hScopes s (List.mem_cons_self ..))
    obtain ⟨hRest, hApart⟩ := ih hApart fun t ht => hScopes t (List.mem_cons_of_mem _ ht)
    exact ⟨hFirst.trans hRest, hApart⟩

/-! ## Leaving earlier flows undisturbed -/

/-- The flow `on` leaves everything intact; any other that was begun after it leaves intact what
there was before. -/
structure Undisturbed (on flow : Nat) (w w' : State) : Prop where
  own : flow = on → Numbered w → w.HasFlow on → Numbered w' ∧ Intact w.supply w w'
  apart : flow ≠ on → Numbered w → ∀ bound, on < bound → Apart bound flow w →
    Numbered w' ∧ Intact bound w w' ∧ Apart bound flow w'

namespace Undisturbed

variable {flow : Nat} {w w' w'' : State}

/-- What leaves everything intact on any flow. -/
theorem of_intact (h : Numbered w → Numbered w' ∧ ∀ bound, Intact bound w w') :
    Undisturbed on flow w w' where
  own _ hw _ := ⟨(h hw).1, (h hw).2 _⟩
  apart _ hw bound _ hApart := ⟨(h hw).1, (h hw).2 bound, hApart.intact ((h hw).2 _)⟩

theorem of_still (h : Still w w') : Undisturbed on flow w w' :=
  of_intact fun hw => ⟨(h.numbered hw).1, fun _ => .of_scoping_eq (h.numbered hw).2 h.scoping_eq⟩

/-- What a flow that stands apart does with its own guards. -/
theorem of_apart (hNe : flow ≠ on) (hNumbered : Numbered w → Numbered w')
    (h : ∀ bound, Apart bound flow w → Intact bound w w' ∧ Apart bound flow w') :
    Undisturbed on flow w w' where
  own hOn := absurd hOn hNe
  apart _ hw bound _ hApart := ⟨hNumbered hw, h bound hApart⟩

theorem trans (h : Undisturbed on flow w w') (h' : Undisturbed on flow w' w'') :
    Undisturbed on flow w w'' where
  own hOn hw hFlow := by
    obtain ⟨hw', hFirst⟩ := h.own hOn hw hFlow
    obtain ⟨hw'', hSecond⟩ := h'.own hOn hw' (hFlow.intact hFirst)
    exact ⟨hw'', hFirst.trans (hSecond.mono hFirst.supply_le)⟩
  apart hNe hw bound hBound hApart := by
    obtain ⟨hw', hFirst, hApart⟩ := h.apart hNe hw bound hBound hApart
    obtain ⟨hw'', hSecond, hApart⟩ := h'.apart hNe hw' bound hBound hApart
    exact ⟨hw'', hFirst.trans hSecond, hApart⟩

theorem bracket {cx : Context} (h : Undisturbed on flow (w.openGuard flow cx).2 w') :
    Undisturbed on flow w (w'.closeGuard flow (w.openGuard flow cx).1) := by
  have hOpened : Numbered w → Numbered (w.openGuard flow cx).2 := fun hw =>
    ⟨hw.global, hw.propagators⟩
  constructor
  · rintro rfl hw hFlow
    obtain ⟨hw', hInside⟩ := h.own rfl (hOpened hw) (hFlow.openGuard cx)
    exact ⟨(beside_closeGuard w' flow _).numbered hw', intact_bracket hFlow.lt_supply hInside⟩
  · intro hNe hw bound hBound hApart
    obtain ⟨hFirst, hOpenedApart⟩ := hApart.openGuard cx
    obtain ⟨hw', hSecond, hInside⟩ := h.apart hNe (hOpened hw) bound hBound hOpenedApart
    obtain ⟨hThird, hClosed⟩ := hInside.closeGuard hApart.bound_le_supply
    exact ⟨(beside_closeGuard w' flow _).numbered hw', (hFirst.trans hSecond).trans hThird, hClosed⟩

/-- Whatever a new flow does, it does not do it to those that there were before it. -/
theorem newFlow (h : Undisturbed on w.beginFlow.1 w.beginFlow.2 w') :
    Undisturbed on flow w (w'.endFlow w.beginFlow.1) := by
  have hAll : Numbered w → on < w.supply →
      Numbered (w'.endFlow w.beginFlow.1) ∧ Intact w.supply w (w'.endFlow w.beginFlow.1) := by
    intro hw hOn
    obtain ⟨hEnd, hRan, -⟩ :=
      h.apart (Nat.ne_of_gt hOn) ⟨hw.global, hw.propagators⟩ w.supply hOn (apart_beginFlow w)
    exact ⟨⟨hEnd.global, hEnd.propagators⟩,
      ((intact_beginFlow w).trans hRan).trans (intact_endFlow (Nat.le_refl _))⟩
  constructor
  · intro _ hw hFlow
    exact hAll hw hFlow.lt_supply
  · intro _ hw bound hBound hApart
    obtain ⟨hw', hIntact⟩ := hAll hw (Nat.lt_of_lt_of_le hBound hApart.bound_le_supply)
    exact ⟨hw', hIntact.mono hApart.bound_le_supply, hApart.intact hIntact⟩

instance : Lasting (Undisturbed on) where
  preorder _ := { refl := fun _ => of_still (refl_of Still _), trans := fun _ _ _ => trans }
  of_tame h := of_still h.toStill
  bracket := bracket
  newFlow := newFlow

end Undisturbed

/-! ## Steps that change scopes -/

theorem scopeNamed_apply (flow : Nat) (name : String) (w : State) :
    scopeNamed flow name w =
      match (w.flow flow).scopes.find? fun s => s.name == name with
      | some s => (.ok s, w)
      | none => (.error (.unknownName name), w) := by
  show (match (w.flow flow).scopes.find? fun s => s.name == name with
    | some s => pure s
    | none => throw (.unknownName name) : Action OpenScope) w = _
  cases (w.flow flow).scopes.find? fun s => s.name == name <;> rfl

/-- If current contexts live with threads, it does not matter what becomes of the host's store. -/
theorem undisturbed_host {flow : Nat} {w : State} (hThreads : w.byRequest = false) (run : Runner)
    (fuel : Nat) {s : Step} (hHost : (∃ id, s = .request id) ∨ ∃ cx, s = .hostSet cx) :
    Leads (Undisturbed on flow) (perform run fuel flow s) w := by
  have hSlotOf : ∀ {w : State}, w.byRequest = false → ∀ other, w.slotOf other = .thread other :=
    fun h other => by rw [World.slotOf, h]; rfl
  rcases hHost with ⟨id, rfl⟩ | ⟨name, rfl⟩
  · refine .of_intact fun hw => ⟨⟨hw.global, hw.propagators⟩, fun bound => ?_⟩
    have hBound :
        (w.modifyFlow flow fun f => { f with request := id }).byRequest = false := hThreads
    refine ⟨Nat.le_refl _, fun _ _ => rfl, fun other _ => ?_, fun other _ => ?_, fun other _ => ?_⟩
    · show ((w.modifyFlow flow fun f => { f with request := id }).flow other).scopes = _
      rw [World.flow_modifyFlow]
      split
      · rename_i hSame
        rw [hSame]
      · rfl
    · exact (hSlotOf hBound other).trans (hSlotOf hThreads other).symm
    · show w.slots.current (World.slotOf _ other) = w.slots.current (w.slotOf other)
      rw [hSlotOf hThreads]
      exact congrArg w.slots.current (hSlotOf hBound other)
  · refine leads_named fun cx _ => ?_
    refine .of_intact fun hw => ⟨⟨hw.global, hw.propagators⟩, fun bound => ?_⟩
    refine ⟨Nat.le_refl _, fun _ _ => rfl, fun _ _ => rfl, fun _ _ => rfl, fun other _ => ?_⟩
    have hNe : w.hostSlot flow ≠ .thread other := by
      unfold World.hostSlot
      intro hEq
      split at hEq <;> cases hEq
    show (w.slots.replace (w.hostSlot flow) cx).current (w.slotOf other) = _
    rw [hSlotOf hThreads, Slots.current_replace_of_ne _ _ hNe, World.current, hSlotOf hThreads]

section Steps

variable {run : Runner} (hRun : ∀ flow body, Relates (Undisturbed on flow) (run flow body))
  (fuel found : Nat) {flow : Nat}
include hRun

theorem relates_undisturbed {s : Step} (hScopes : s.changesScopes = false) :
    Relates (Undisturbed on flow) (perform run fuel flow s) := by
  by_cases hMakes : s.makes? = none
  · exact relates_perform hRun fuel s hScopes hMakes fun _ w rest =>
      .of_still ⟨rfl, fun hw => ⟨hw.congr rfl, Nat.le_refl _⟩⟩
  · exact (relates_making run fuel flow hMakes).mono fun _ _ => .of_still

/-- A step on a flow that stands apart may do anything with its own guards. -/
theorem undisturbed_perform (hNe : flow ≠ on) (s : Step) {w : State}
    (h : nested on found flow s w = true) :
    Leads (Undisturbed on flow) (perform run fuel flow s) w := by
  have hAttach : ∀ cx guard w, Undisturbed on flow w (attach flow cx guard w).2 := fun cx guard w =>
    .of_apart hNe (fun hw => ⟨hw.global, hw.propagators⟩) fun bound hApart =>
      apart_attach hApart cx guard
  cases hScopes : s.changesScopes with
  | false => exact relates_undisturbed hRun fuel hScopes w
  | true =>
    cases s with
    | attach name guard => exact leads_named fun cx _ => hAttach cx guard w
    | markActive guard span =>
      have hTaken : Relates Quiet (takeSpan span) := relates_takeSpan span
      exact ((readsOnly_contextOr flow none).relates.bind fun cx => hTaken.tame.lasting.bind
        fun active => relates_freshNumber.tame.lasting.bind fun id w => hAttach _ guard w) w
    | close guard =>
      refine (readsOnly_scopeNamed flow guard).leads fun s hNamed => ?_
      have hMem : s ∈ (w.flow flow).scopes := by
        rw [scopeNamed_apply] at hNamed
        split at hNamed
        · rename_i other hFound
          cases hNamed
          exact List.mem_of_find?_eq_some hFound
        · cases hNamed
      exact .of_apart hNe (beside_closeScope w flow s.guard).numbered fun bound hApart =>
        apart_closeScope hApart (hApart.le_guard s hMem)
    | request id => exact undisturbed_host (by simpa [nested] using h) run fuel (.inl ⟨id, rfl⟩)
    | hostSet cx => exact undisturbed_host (by simpa [nested] using h) run fuel (.inr ⟨cx, rfl⟩)
    | _ => cases hScopes

end Steps

/-! ## The pile of a body -/

theorem flow_attach (flow : Nat) (cx : Context) (guard : String) (w : State) (other : Nat) :
    ((attach flow cx guard w).2.flow other) =
      if flow = other then { w.flow flow with scopes := ⟨guard, w.supply⟩ :: (w.flow flow).scopes }
      else w.flow other :=
  World.flow_modifyFlow (w.openGuard flow cx).2 flow _ other

theorem hasFlow_attach {w : State} (h : w.HasFlow on) (cx : Context) (guard : String) :
    (attach on cx guard w).2.HasFlow on where
  lt_supply := Nat.lt_succ_of_lt h.lt_supply
  guard_lt s hs := by
    rw [flow_attach, if_pos rfl] at hs
    rcases List.mem_cons.1 hs with rfl | hOld
    · exact Nat.lt_succ_self _
    · exact Nat.lt_succ_of_lt (h.guard_lt s hOld)

/-- The bracket lemma for a named guard: closing it takes its name away, too. -/
theorem intact_closeScope {w₁ w : State} {cx : Context} {guard : String} (hFlow : w₁.HasFlow on)
    (h : Intact (attach on cx guard w₁).2.supply (attach on cx guard w₁).2 w) :
    (w.flow on).scopes = ⟨guard, w₁.supply⟩ :: (w₁.flow on).scopes ∧
      Intact w₁.supply w₁ (closeScope on w₁.supply w) := by
  have hScopes : (w.flow on).scopes = ⟨guard, w₁.supply⟩ :: (w₁.flow on).scopes := by
    rw [h.scopes_eq on (Nat.lt_succ_of_lt hFlow.lt_supply), flow_attach, if_pos rfl]
  -- Without the name, the session is as after the opening of a guard that has none.
  let opened := (w₁.openGuard on cx).2
  let taken := w.modifyFlow on fun f =>
    { f with scopes := f.scopes.filter fun s => s.guard != w₁.supply }
  have hPushed : ∀ other, (attach on cx guard w₁).2.slotOf other = opened.slotOf other :=
    World.slotOf_modifyFlow (f := fun f => { f with scopes := ⟨guard, w₁.supply⟩ :: f.scopes })
      (fun _ => rfl) opened on
  have hSlotOf : ∀ other < opened.supply, taken.slotOf other = opened.slotOf other := by
    intro other hOther
    rw [← hPushed, ← h.slotOf_eq other hOther]
    exact World.slotOf_modifyFlow
      (f := fun f => { f with scopes := f.scopes.filter fun s => s.guard != w₁.supply })
      (fun _ => rfl) w on other
  have hTaken : Intact opened.supply opened taken := by
    refine ⟨h.supply_le, h.guard_eq, fun other hOther => ?_, hSlotOf, fun other hOther => ?_⟩
    · show (taken.flow other).scopes = (w₁.flow other).scopes
      rw [World.flow_modifyFlow]
      by_cases hSame : on = other
      · rw [if_pos hSame, ← hSame]
        show (w.flow on).scopes.filter _ = _
        rw [hScopes, List.filter_cons_of_neg (by simp), List.filter_eq_self]
        exact fun s hs => by simpa using Nat.ne_of_lt (hFlow.guard_lt s hs)
      · rw [if_neg hSame, h.scopes_eq other hOther, flow_attach, if_neg hSame]
    · have hCurrent := h.current_eq other hOther
      rw [World.current, World.current, h.slotOf_eq other hOther, hPushed] at hCurrent
      rw [World.current, World.current, hSlotOf other hOther]
      exact hCurrent
  exact ⟨hScopes, intact_bracket hFlow.lt_supply hTaken⟩

/-- The body that began on `on` in the session `w₀` has opened this many guards and not closed them.
-/
inductive Layered (on : Nat) (w₀ : State) : Nat → State → Prop where
  | ground {w : State} : Intact w₀.supply w₀ w → Layered on w₀ 0 w
  | layer {n : Nat} {w₁ w : State} {cx : Context} {guard : String} : Layered on w₀ n w₁ →
    Intact (attach on cx guard w₁).2.supply (attach on cx guard w₁).2 w → Layered on w₀ (n + 1) w

namespace Layered

variable {w₀ w w' : State} {n : Nat}

/-- What leaves everything intact is done on top of the pile. -/
theorem trans (h : Layered on w₀ n w) (hIntact : Intact w.supply w w') : Layered on w₀ n w' := by
  cases h with
  | ground hGround => exact .ground (hGround.trans (hIntact.mono hGround.supply_le))
  | layer hUnder hLayer => exact .layer hUnder (hLayer.trans (hIntact.mono hLayer.supply_le))

theorem attach (h : Layered on w₀ n w) (cx : Context) (guard : String) :
    Layered on w₀ (n + 1) (attach on cx guard w).2 := .layer h .refl

theorem hasFlow (h : Layered on w₀ n w) (hFlow : w₀.HasFlow on) : w.HasFlow on := by
  induction h with
  | ground hGround => exact hFlow.intact hGround
  | layer hUnder hLayer ih => exact (hasFlow_attach ih _ _).intact hLayer

/-- Closing the youngest guard takes off the topmost layer. -/
theorem close (h : Layered on w₀ (n + 1) w) (hFlow : w₀.HasFlow on) :
    ∃ s, (w.flow on).scopes = s :: ((closeScope on s.guard w).flow on).scopes ∧
      Layered on w₀ n (closeScope on s.guard w) := by
  cases h with
  | layer hUnder hLayer =>
    rename_i w₁ cx guard
    have hHas := hUnder.hasFlow hFlow
    obtain ⟨hScopes, hIntact⟩ := intact_closeScope hHas hLayer
    refine ⟨⟨guard, w₁.supply⟩, ?_, hUnder.trans hIntact⟩
    rw [hScopes, hIntact.scopes_eq on hHas.lt_supply]

/-- Closing the guards of the body from the youngest on takes off all layers. -/
theorem closeAll (h : Layered on w₀ n w) (hFlow : w₀.HasFlow on) :
    ∃ own, (w.flow on).scopes = own ++ (w₀.flow on).scopes ∧ own.length = n ∧
      Intact w₀.supply w₀ (own.foldl (fun w s => closeScope on s.guard w) w) := by
  induction n generalizing w with
  | zero =>
    cases h with
    | ground hGround => exact ⟨[], hGround.scopes_eq on hFlow.lt_supply, rfl, hGround⟩
  | succ n ih =>
    obtain ⟨s, hScopes, hRest⟩ := h.close hFlow
    obtain ⟨own, hOwn, hLength, hIntact⟩ := ih hRest
    exact ⟨s :: own, by rw [hScopes, hOwn, List.cons_append], by rw [List.length_cons, hLength],
      hIntact⟩

theorem openCount_eq (h : Layered on w₀ n w) (hFlow : w₀.HasFlow on) :
    openCount on w = n + openCount on w₀ := by
  obtain ⟨own, hScopes, hLength, -⟩ := h.closeAll hFlow
  rw [openCount, hScopes, List.length_append, hLength, openCount]

end Layered

/-! ## Well-nested bodies -/

/-- What piles guards up on a session in which a body began, or takes them off, but not the ones
that were there. -/
def Piled (on : Nat) (w₀ w w' : State) : Prop :=
  (Numbered w ∧ ∃ n, Layered on w₀ n w) → Numbered w' ∧ ∃ n, Layered on w₀ n w'

instance (w₀ : State) : IsPreorder State (Piled on w₀) where
  refl _ h := h
  trans _ _ _ h h' hw := h' (h hw)

section Bodies

variable {w₀ w w' : State} (hFlow : w₀.HasFlow on)

theorem piled_attach (cx : Context) (guard : String) (w : State) :
    Piled on w₀ w (attach on cx guard w).2 :=
  fun ⟨hw, _, h⟩ => ⟨⟨hw.global, hw.propagators⟩, _, h.attach cx guard⟩

include hFlow

theorem Undisturbed.piled (h : Undisturbed on on w w') : Piled on w₀ w w' := by
  rintro ⟨hw, n, hLayers⟩
  obtain ⟨hw', hIntact⟩ := h.own rfl hw (hLayers.hasFlow hFlow)
  exact ⟨hw', n, hLayers.trans hIntact⟩

/-- The youngest guard of a name is the youngest of all if that one has the name. -/
theorem piled_close {guard : String} (h : closesOwn (openCount on w₀) on guard w = true) :
    Leads (Piled on w₀) (closeNamed on guard) w := by
  rintro ⟨hw, n, hLayers⟩
  simp only [closesOwn, Bool.and_eq_true, decide_eq_true_eq] at h
  rw [hLayers.openCount_eq hFlow] at h
  obtain ⟨n, rfl⟩ : ∃ m, n = m + 1 := ⟨n - 1, by omega⟩
  obtain ⟨s, hScopes, hRest⟩ := hLayers.close hFlow
  have hName : (s.name == guard) = true := by simpa [hScopes] using h.2
  have hFound : ((w.flow on).scopes.find? fun s => s.name == guard) = some s := by
    rw [hScopes]
    exact List.find?_cons_of_pos hName
  have hClosed : closeNamed on guard w = (.ok .nothing, closeScope on s.guard w) := by
    rw [closeNamed, bind_apply, scopeNamed_apply, hFound]
    rfl
  rw [hClosed]
  exact ⟨(beside_closeScope w on s.guard).numbered hw, n, hRest⟩

variable {run : Runner} (hRun : ∀ flow body, Relates (Undisturbed on flow) (run flow body))
include hRun

/-- A step on the flow itself, if the rule allows it. -/
theorem piled_perform (fuel : Nat) (s : Step)
    (h : nested on (openCount on w₀) on s w = true) :
    Leads (Piled on w₀) (perform run fuel on s) w := by
  cases hScopes : s.changesScopes with
  | false => exact (relates_undisturbed hRun fuel hScopes w).piled hFlow
  | true =>
    cases s with
    | attach name guard => exact leads_named fun cx _ => piled_attach cx guard w
    | markActive guard span =>
      have hQuiet : ∀ {w w' : State}, Quiet w w' → Piled on w₀ w w' := fun h =>
        (Undisturbed.of_still h.tame.toStill).piled hFlow
      exact ((readsOnly_contextOr on none).relates.bind fun cx =>
        ((relates_takeSpan span).mono fun _ _ => hQuiet).bind fun active =>
          (relates_freshNumber.mono fun _ _ => hQuiet).bind fun id w => piled_attach _ guard w) w
    | close guard => exact piled_close hFlow (by simpa [nested] using h)
    | request id =>
      exact (undisturbed_host (by simpa [nested] using h) run fuel (.inl ⟨id, rfl⟩)).piled hFlow
    | hostSet cx =>
      exact (undisturbed_host (by simpa [nested] using h) run fuel (.inr ⟨cx, rfl⟩)).piled hFlow
    | _ => cases hScopes

end Bodies

/-- A body on the flow itself takes all layers off when it is done. -/
theorem intact_runHeeding {act : Nat → Step → Action Result}
    (hAct : ∀ {w₀ w : State}, w₀.HasFlow on → ∀ s, nested on (openCount on w₀) on s w = true →
      Leads (Piled on w₀) (act on s) w)
    (body : Body) {w : State} (hw : Numbered w) (hFlow : w.HasFlow on) :
    Numbered (runHeeding (nested on) act on body w).2 ∧
      Intact w.supply w (runHeeding (nested on) act on body w).2 := by
  have hStep : ∀ s, Relates (Piled on w) (heeding (nested on) (openCount on w) act on s) :=
    relates_heeding fun s _ hRule => hAct hFlow s hRule
  have hReport : ∀ w' : State, Piled on w w' w'.takeLog.2 := fun w' =>
    (Undisturbed.of_still (quiet_takeLog w').tame.toStill).piled hFlow
  obtain ⟨hEnd, n, hLayers⟩ := relates_runSteps hReport hStep on body w ⟨hw, 0, .ground .refl⟩
  obtain ⟨own, hScopes, hLength, hIntact⟩ := hLayers.closeAll hFlow
  have hCount := hLayers.openCount_eq hFlow
  rw [runHeeding, snd_runBody]
  unfold closeDownTo
  rw [hCount, Nat.add_sub_cancel, hScopes, List.take_left' hLength]
  exact ⟨(beside_closeEach _ on own).numbered hEnd, hIntact⟩

/-- A body on another flow. -/
theorem relates_runHeeding {act : Nat → Step → Action Result} {flow : Nat} (hNe : flow ≠ on)
    (hAct : ∀ {found : Nat} {w : State} (s), nested on found flow s w = true →
      Leads (Undisturbed on flow) (act flow s) w)
    (body : Body) : Relates (Undisturbed on flow) (runHeeding (nested on) act flow body) := by
  intro w
  have hStep : ∀ s, Relates (Undisturbed on flow)
      (heeding (nested on) (openCount flow w) act flow s) :=
    relates_heeding fun s _ hRule => hAct s hRule
  have hSteps := relates_runSteps (fun w' => .of_still (quiet_takeLog w').tame.toStill) hStep flow
    body w
  unfold Leads
  rw [runHeeding, snd_runBody]
  refine hSteps.trans (.of_apart hNe (beside_closeEach _ flow _).numbered fun bound hApart => ?_)
  exact apart_closeEach hApart fun s hs => hApart.le_guard s (List.mem_of_mem_take hs)

/-- A body that is run under the rule leaves earlier flows undisturbed, on its own flow and on
others. By induction on the depth to which bodies run bodies. -/
theorem undisturbed_runHeeding (fuel flow : Nat) (body : Body) :
    Relates (Undisturbed on flow)
      (runHeeding (nested on) (performHeeding (nested on) fuel) flow body) := by
  have hBodies : ∀ {act : Nat → Step → Action Result},
      (∀ {w₀ w : State}, w₀.HasFlow on → ∀ s, nested on (openCount on w₀) on s w = true →
        Leads (Piled on w₀) (act on s) w) →
      (∀ {flow found : Nat} {w : State}, flow ≠ on → ∀ s, nested on found flow s w = true →
        Leads (Undisturbed on flow) (act flow s) w) →
      ∀ flow body, Relates (Undisturbed on flow) (runHeeding (nested on) act flow body) := by
    intro act hOwn hOther flow body
    by_cases hOn : flow = on
    · subst hOn
      exact fun w => ⟨fun _ hw hFlow => intact_runHeeding hOwn body hw hFlow,
        fun hNe => absurd rfl hNe⟩
    · exact relates_runHeeding hOn (fun s hRule => hOther hOn s hRule) body
  induction fuel generalizing flow body with
  | zero =>
    exact hBodies (fun _ _ _ => (readsOnly_throw _).relates _) (fun _ _ _ =>
      (readsOnly_throw _).relates _) flow body
  | succ fuel ih =>
    exact hBodies (fun hFlow s hRule => piled_perform hFlow ih fuel s hRule)
      (fun hNe s hRule => undisturbed_perform ih fuel _ hNe s hRule) flow body

/-- A well-nested body leaves everything intact. -/
theorem intact_of_wellNested {fuel flow : Nat} {body : Body} {w : State}
    (h : WellNested fuel flow body w) (hw : Numbered w) (hFlow : w.HasFlow flow) :
    Intact w.supply w (runBody (performWith fuel) flow body w).2 := by
  have hUndisturbed : Undisturbed flow flow w
      (runHeeding (nested flow) (performHeeding (nested flow) fuel) flow body w).2 :=
    undisturbed_runHeeding fuel flow body w
  rw [h] at hUndisturbed
  exact (hUndisturbed.own rfl hw hFlow).2

end SpanFlow.Script
