import SpanFlow.Proofs.Script.Action
import SpanFlow.Script.Run

/-!
# What runs preserve

What every step preserves of a session, runs preserve: of bodies, and of scripts to whatever depth.
Besides steps a run makes reports, which takes the diagnostics reported so far, and closes the
guards that a body has left open.

## Main results

* `preserved_runBody`: what steps preserve, bodies preserve.
* `preserved_performWith`: what steps preserve if bodies do, is preserved to every depth.
-/

namespace SpanFlow.Script

open Session

section Preserved

variable {P : State → Prop}

theorem preserved_closeDownTo (hClose : ∀ flow guard w, P w → P (closeScope flow guard w))
    (count flow : Nat) {w : State} (hw : P w) : P (closeDownTo count flow w) := by
  have hAll : ∀ (scopes : List OpenScope) (w : State), P w →
      P (scopes.foldl (fun w s => closeScope flow s.guard w) w) := by
    intro scopes
    induction scopes with
    | nil => exact fun _ hw => hw
    | cons s rest ih => exact fun w hw => ih _ (hClose flow s.guard w hw)
  exact hAll _ w hw

theorem preserved_runSteps (hLog : ∀ w, P w → P w.takeLog.2) {act : Step → Action Result}
    (hAct : ∀ s w, P w → P (act s w).2) (flow : Nat) (body : Body) {w : State} (hw : P w) :
    P (runSteps act flow body w).2 := by
  induction body generalizing w with
  | nil => exact hw
  | cons s rest ih =>
    have hStep : P (act s w).2 := hAct s w hw
    rw [runSteps]
    rcases hRan : act s w with ⟨halt | r, w'⟩ <;> rw [hRan] at hStep
    · exact hStep
    · exact ih (hLog w' hStep)

variable (hLog : ∀ w, P w → P w.takeLog.2)
  (hClose : ∀ flow guard w, P w → P (closeScope flow guard w))
include hLog hClose

/-- **What steps preserve, bodies preserve.** -/
theorem preserved_runBody {act : Nat → Step → Action Result}
    (hAct : ∀ flow s w, P w → P (act flow s w).2) (flow : Nat) (body : Body)
    {w : State} (hw : P w) :
    P (runBody act flow body w).2 := by
  have hClosed := preserved_closeDownTo hClose (openCount flow w) flow
    (preserved_runSteps hLog (hAct flow) flow body hw)
  unfold runBody
  rcases hEnd : runSteps (act flow) flow body w with ⟨⟨reports, halt?⟩, w'⟩
  rw [hEnd] at hClosed
  rcases halt? with _ | ⟨message | name | _⟩ <;> exact hClosed

/-- By induction on the depth to which bodies run bodies. -/
theorem preserved_performWith
    (hPerform : ∀ run : Runner, (∀ flow body w, P w → P (run flow body w).2) →
      ∀ fuel flow s w, P w → P (perform run fuel flow s w).2)
    (fuel flow : Nat) (s : Step) {w : State} (hw : P w) : P (performWith fuel flow s w).2 := by
  induction fuel generalizing flow s w with
  | zero => exact hw
  | succ fuel ih =>
    refine hPerform _ (fun flow body w hw => ?_) fuel flow s w hw
    exact preserved_runBody hLog hClose (fun flow s w hw => ih flow s hw) flow body hw

end Preserved

end SpanFlow.Script
