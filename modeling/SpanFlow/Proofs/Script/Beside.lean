import SpanFlow.Proofs.Script.Lasting

/-!
# Changes beside work

Opening and closing scopes, in any order and on any flow, has nothing to do with work or
propagators. All that it has to do with numbers is that guards get theirs from the supply.

## Main results

* `beside_openGuard`, `beside_closeGuard`, `beside_beginFlow`, `beside_endFlow`: the single changes.
* `beside_perform`: steps that change scopes.
-/

namespace SpanFlow.Script

open Session

/-- Every named guard has its number from the supply. -/
def GuardsNumbered (w : State) : Prop :=
  Assoc.All (fun f : Flow => ∀ s ∈ f.scopes, s.guard < w.supply) w.flows

/-- What a change does that has to do with neither work nor propagators. -/
structure Beside (w w' : State) : Prop where
  supply_le : w.supply ≤ w'.supply
  carrying_eq : w'.carrying = w.carrying
  propagation_eq : propagation w' = propagation w
  guards : GuardsNumbered w → GuardsNumbered w'

instance : IsPreorder State Beside where
  refl _ := ⟨Nat.le_refl _, rfl, rfl, id⟩
  trans _ _ _ h h' := ⟨Nat.le_trans h.supply_le h'.supply_le, h'.carrying_eq.trans h.carrying_eq,
    h'.propagation_eq.trans h.propagation_eq, fun hw => h'.guards (h.guards hw)⟩

theorem GuardsNumbered.flow {w : State} (hw : GuardsNumbered w) (id : Nat) :
    ∀ s ∈ (w.flow id).scopes, s.guard < w.supply := by
  unfold World.flow
  rcases hGet : Assoc.get? w.flows id with _ | f
  · exact fun s hs => nomatch hs
  · exact hw.of_get? hGet

theorem GuardsNumbered.mono {w w' : State} (hw : GuardsNumbered w) (hFlows : w'.flows = w.flows)
    (hSupply : w.supply ≤ w'.supply) : GuardsNumbered w' := by
  intro x hx s hs
  rw [hFlows] at hx
  exact Nat.lt_of_lt_of_le (hw x hx s hs) hSupply

theorem Quiet.beside {w w' : State} (h : Quiet w w') : Beside w w' :=
  ⟨h.supply_le, h.carrying_eq, h.propagation_eq,
    fun hw => hw.mono (congrArg Scoping.flows h.scoping_eq) h.supply_le⟩

theorem Beside.numbered {w w' : State} (h : Beside w w') (hw : Numbered w) : Numbered w' :=
  hw.congr h.propagation_eq

/-! ## Scopes -/

section Scopes

variable (w : State) (flow : Nat)

theorem beside_openGuard (cx : Context) : Beside w (w.openGuard flow cx).2 :=
  ⟨Nat.le_succ _, rfl, rfl, fun hw => hw.mono rfl (Nat.le_succ _)⟩

theorem beside_closeGuard (id : Nat) : Beside w (w.closeGuard flow id) := by
  rcases hGuard : Assoc.get? w.guards id with _ | g
  · rw [World.closeGuard_of_none hGuard]
    exact refl_of Beside w
  · obtain ⟨t, hClosed⟩ := World.closeGuard_eq flow hGuard
    rw [hClosed]
    exact ⟨Nat.le_refl _, rfl, rfl, fun hw => hw.mono rfl (Nat.le_refl _)⟩

theorem beside_beginFlow : Beside w w.beginFlow.2 := by
  refine ⟨Nat.le_succ _, rfl, rfl, fun hw => ?_⟩
  have hFresh : GuardsNumbered w.fresh.2 := hw.mono rfl (Nat.le_succ _)
  exact hFresh.insert _ fun _ hs => nomatch hs

theorem beside_endFlow : Beside w (w.endFlow flow) :=
  ⟨Nat.le_refl _, rfl, rfl, fun hw => hw.erase flow⟩

/-- The named guards of a flow are changed, but for ones that have not been opened. -/
theorem beside_modifyFlow {f : Flow → Flow}
    (hScopes : ∀ s ∈ (f (w.flow flow)).scopes, s ∈ (w.flow flow).scopes ∨ s.guard < w.supply) :
    Beside w (w.modifyFlow flow f) :=
  ⟨Nat.le_refl _, rfl, rfl, fun hw =>
    hw.insert flow fun s hs => (hScopes s hs).elim (hw.flow flow s) id⟩

theorem beside_attach (cx : Context) (guard : String) : Beside w (attach flow cx guard w).2 := by
  have hNamed : Beside (w.openGuard flow cx).2 (attach flow cx guard w).2 :=
    beside_modifyFlow _ flow (f := fun f => { f with scopes := ⟨guard, w.supply⟩ :: f.scopes })
      fun s hs => by
      rcases List.mem_cons.1 hs with rfl | hOld
      · exact .inr (Nat.lt_succ_self _)
      · exact .inl hOld
  exact trans_of Beside (beside_openGuard w flow cx) hNamed

theorem beside_closeScope (id : Nat) : Beside w (closeScope flow id w) := by
  have hTaken : Beside w (w.modifyFlow flow fun f =>
      { f with scopes := f.scopes.filter fun s => s.guard != id }) :=
    beside_modifyFlow w flow fun s hs => .inl (List.mem_of_mem_filter hs)
  exact trans_of Beside hTaken (beside_closeGuard _ flow id)

theorem beside_closeEach (scopes : List OpenScope) :
    Beside w (scopes.foldl (fun w s => closeScope flow s.guard w) w) := by
  induction scopes generalizing w with
  | nil => exact refl_of Beside w
  | cons s rest ih => exact trans_of Beside (beside_closeScope w flow s.guard) (ih _)

theorem beside_closeDownTo (count : Nat) : Beside w (closeDownTo count flow w) :=
  beside_closeEach w flow _

end Scopes

/-- Steps that open or close a scope have nothing to do with work. -/
theorem beside_perform (run : Runner) (fuel flow : Nat) {s : Step} (h : s.changesScopes = true) :
    Relates Beside (perform run fuel flow s) := by
  cases s with
  | attach name guard =>
    exact (readsOnly_named _ name).relates.bind fun cx w => beside_attach w flow cx guard
  | markActive guard span =>
    exact (readsOnly_contextOr flow none).relates.bind fun cx =>
      ((relates_takeSpan span).mono fun _ _ => Quiet.beside).bind fun active =>
        (relates_freshNumber.mono fun _ _ => Quiet.beside).bind fun id w =>
          beside_attach w flow _ guard
  | close guard =>
    exact (readsOnly_scopeNamed flow guard).relates.bind fun s =>
      relates_change fun w => beside_closeScope w flow s.guard
  | request id =>
    exact relates_change fun w =>
      beside_modifyFlow w flow (f := fun f => { f with request := id }) fun s hs => .inl hs
  | hostSet cx =>
    exact (readsOnly_named _ cx).relates.bind fun cx => relates_change fun w =>
      ⟨Nat.le_refl _, rfl, rfl, fun hw => hw.mono rfl (Nat.le_refl _)⟩
  | _ => cases h

end SpanFlow.Script
