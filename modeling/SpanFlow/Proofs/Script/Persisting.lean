import SpanFlow.Proofs.Script.Capturing
import SpanFlow.Proofs.Script.Layers

/-!
# What persists through a session

What work carries stays with it. Contexts may be attached and closed, other work may be made, and
the work itself may be run; but as long as no work is made under the same name, it carries what it
was made with, until it is used up or let go.

Sessions also stay sound: propagators take numbers upwards, and named guards have their numbers from
the supply. So a flow that begins later has its own guards and no others.

Both are ongoing relations, of sessions before and after. What goes on through every allowed step
goes on through bodies of such steps, however deep bodies run bodies.

## Main results

* `ongoing_performHeeding`: what goes on through steps goes on through bodies.
* `sound_initial`, `orderly_performWith`: sessions begin sound and stay so.
* `retains_performHeeding`: work that is not made anew carries what it carried.
-/

namespace SpanFlow.Script

open Session

/-! ## Sound sessions -/

/-- Numbers are taken upwards, and what has a number has it from the supply. -/
structure Sound (w : State) : Prop where
  numbered : Numbered w
  guards : GuardsNumbered w

theorem Sound.hasFlow {w : State} (hw : Sound w) {flow : Nat} (h : flow < w.supply) :
    w.HasFlow flow := ⟨h, hw.guards.flow flow⟩

/-- Sessions begin sound. -/
theorem sound_initial (byRequest : Bool) (environment : Surroundings) :
    Sound (World.initial byRequest environment) where
  numbered := ⟨advances_noop, fun _ hp => nomatch hp⟩
  guards := by
    intro x hx s hs
    obtain rfl := List.mem_singleton.1 hx
    cases hs

/-- Numbers go up, and a sound session stays so. -/
def Orderly (w w' : State) : Prop := Sound w → Sound w' ∧ w.supply ≤ w'.supply

theorem Orderly.trans {w w' w'' : State} (h : Orderly w w') (h' : Orderly w' w'') :
    Orderly w w'' := by
  intro hw
  obtain ⟨hw', hFirst⟩ := h hw
  obtain ⟨hw'', hSecond⟩ := h' hw'
  exact ⟨hw'', Nat.le_trans hFirst hSecond⟩

theorem Still.orderly {w w' : State} (h : Still w w') : Orderly w w' := by
  intro hw
  obtain ⟨hNumbered, hSupply⟩ := h.numbered hw.numbered
  exact ⟨⟨hNumbered, hw.guards.mono (congrArg Scoping.flows h.scoping_eq) hSupply⟩, hSupply⟩

theorem Beside.orderly {w w' : State} (h : Beside w w') : Orderly w w' := fun hw =>
  ⟨⟨h.numbered hw.numbered, h.guards hw.guards⟩, h.supply_le⟩

instance : IsPreorder State Orderly where
  refl w := (refl_of Still w).orderly
  trans _ _ _ := Orderly.trans

/-! ## Ongoing relations -/

/-- A relation of sessions that goes on through everything that steps are made of, as long as they
are allowed. -/
class Ongoing (allowed : Step → Bool) (R : State → State → Prop) : Prop where
  preorder : IsPreorder State R
  of_tame : ∀ {w w'}, Tame w w' → R w w'
  of_beside : ∀ {w w'}, Beside w w' → R w w'
  of_making : ∀ (run : Runner) (fuel flow : Nat) {s : Step}, allowed s = true → s.makes? ≠ none →
    Relates R (perform run fuel flow s)
  of_take : allowed .runQueue = true → ∀ (w : State) rest, R w { w with queue := rest }

instance : Ongoing (fun _ => true) Orderly where
  preorder := inferInstance
  of_tame h := h.toStill.orderly
  of_beside := Beside.orderly
  of_making run fuel flow _ _ h := (relates_making run fuel flow h).mono fun _ _ => Still.orderly
  of_take _ _ _ := Still.orderly ⟨rfl, fun hw => ⟨hw.congr rfl, Nat.le_refl _⟩⟩

instance (pieces : List Piece) : Ongoing (Step.spares pieces) (Retains (· ∈ pieces)) where
  preorder := inferInstance
  of_tame h := h.retains.mono fun _ _ => trivial
  of_beside h := .of_carrying_eq h.carrying_eq
  of_making run fuel flow s hSpares h w := by
    obtain ⟨k, hMakes⟩ := Option.ne_none_iff_exists'.1 h
    unfold Leads
    rcases perform_making run fuel flow w hMakes with ⟨-, hSame⟩ | ⟨r, w', cx?, hRan, -, hMade⟩
    · rw [hSame]
      exact refl_of (Retains _) w
    · rw [hRan]
      exact hMade.retains fun hMem => (Step.not_makes_of_spares hSpares).2 k hMem hMakes
  of_take h := nomatch h

section Ongoing

variable (allowed : Step → Bool) {R : State → State → Prop} [Ongoing allowed R]

/-- A step that is allowed, with bodies of such steps. -/
theorem ongoing_perform {run : Runner} (hRun : ∀ flow body, Relates R (run flow body))
    (fuel flow : Nat) {s : Step} (h : allowed s = true) : Relates R (perform run fuel flow s) := by
  have : IsPreorder State R := Ongoing.preorder allowed
  have : Lasting fun _ => R :=
    { preorder := fun _ => inferInstance
      of_tame := Ongoing.of_tame allowed
      bracket := fun {flow cx w w'} h =>
        trans_of R (Ongoing.of_beside allowed (beside_openGuard w flow cx))
          (trans_of R h (Ongoing.of_beside allowed (beside_closeGuard w' flow _)))
      newFlow := fun {_ w w'} h =>
        trans_of R (Ongoing.of_beside allowed (beside_beginFlow w))
          (trans_of R h (Ongoing.of_beside allowed (beside_endFlow w' _))) }
  by_cases hMakes : s.makes? = none
  · cases hScopes : s.changesScopes with
    | true =>
      exact (beside_perform run fuel flow hScopes).mono fun _ _ => Ongoing.of_beside allowed
    | false =>
      exact relates_perform (S := fun _ => R) hRun fuel s hScopes hMakes fun hQueue =>
        Ongoing.of_take (hQueue ▸ h)
  · exact Ongoing.of_making run fuel flow h hMakes

/-- A body that does only steps that are allowed. -/
theorem ongoing_runHeeding {act : Nat → Step → Action Result}
    (hAct : ∀ flow s, allowed s = true → Relates R (act flow s)) (flow : Nat) (body : Body) :
    Relates R (runHeeding (fun _ _ s _ => allowed s) act flow body) := by
  have : IsPreorder State R := Ongoing.preorder allowed
  intro w
  have hStep : ∀ s, Relates R
      (heeding (fun _ _ s _ => allowed s) (openCount flow w) act flow s) :=
    relates_heeding fun s w' hAllowed => hAct flow s hAllowed w'
  have hSteps := relates_runSteps (R := R)
    (fun w' => Ongoing.of_tame allowed (quiet_takeLog w').tame) hStep flow body w
  unfold Leads
  rw [runHeeding, snd_runBody]
  exact trans_of R hSteps (Ongoing.of_beside allowed (beside_closeDownTo _ flow _))

/-- By induction on the depth to which bodies run bodies. -/
theorem ongoing_performHeeding (fuel flow : Nat) {s : Step} (h : allowed s = true) :
    Relates R (performHeeding (fun _ _ s _ => allowed s) fuel flow s) := by
  have : IsPreorder State R := Ongoing.preorder allowed
  induction fuel generalizing flow s with
  | zero => exact (readsOnly_throw _).relates
  | succ fuel ih =>
    have hRun : ∀ flow body, Relates R
        (runHeeding (fun _ _ s _ => allowed s) (performHeeding (fun _ _ s _ => allowed s) fuel)
          flow body) := ongoing_runHeeding allowed fun flow s h => ih flow h
    exact ongoing_perform allowed hRun fuel flow h

end Ongoing

/-- Every step takes a sound session to a sound one. -/
theorem orderly_performWith (fuel flow : Nat) (s : Step) (w : State) :
    Orderly w (performWith fuel flow s w).2 := by
  have hAll : Relates Orderly (performHeeding (fun _ _ _ _ => true) fuel flow s) :=
    ongoing_performHeeding (fun _ => true) fuel flow rfl
  rw [performHeeding_eq fun _ _ _ _ => rfl] at hAll
  exact hAll w

/-- Work that is spared carries on with what it carries. -/
theorem retains_performHeeding {pieces : List Piece} (fuel flow : Nat) {s : Step}
    (h : s.spares pieces = true) (w : State) :
    Retains (· ∈ pieces) w (performHeeding (sparing pieces) fuel flow s w).2 :=
  ongoing_performHeeding (Step.spares pieces) fuel flow h w

end SpanFlow.Script
