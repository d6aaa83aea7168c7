import SpanFlow.Proofs.Script.Lasting

/-!
# Bodies that heed a rule

A rule says which steps a body may do. Under a rule, bodies are run as ever but halt at a step that
breaks it, and so do the bodies that they run, on whatever flow. A body heeds the rule in a session
if this makes no difference: no step breaks the rule then. It need not do so in other sessions.

Two rules are needed. A body is well nested if it closes no guard but the youngest of its own. What
happens on other flows does not matter for that, as long as nothing is done to the host's store
behind the back of the scopes. And a body spares a piece of work if it does not make it anew; nor
may it run the queue, which is followed piece by piece.

## Main results

* `Heeds`: no step of a body, or of one that it runs, breaks a rule.
* `WellNested`, `sparing`: the two rules.
* `heeds_of_mem`: a rule that allows every step of a body is heeded.
-/

namespace SpanFlow.Script

open Session

/-- What a body may do: whether a step is allowed, from the number of guards that were open when the
body began, the flow, the step and the session. -/
abbrev Rule := Nat → Nat → Step → State → Bool

/-- Does a step that a rule allows, and halts at any other. -/
def heeding (rule : Rule) (found : Nat) (act : Nat → Step → Action Result) (flow : Nat)
    (s : Step) : Action Result := fun w =>
  if rule found flow s w then act flow s w else (.error .outOfFuel, w)

/-- Runs a body under a rule. -/
def runHeeding (rule : Rule) (act : Nat → Step → Action Result) : Runner := fun flow body w =>
  runBody (heeding rule (openCount flow w) act) flow body w

/-- Does a step, with the bodies that it runs under a rule. -/
def performHeeding (rule : Rule) : Nat → Nat → Step → Action Result
  | 0, _, _ => throw .outOfFuel
  | fuel + 1, flow, s => perform (runHeeding rule (performHeeding rule fuel)) fuel flow s

/-- The rule makes no difference to a body. -/
def Heeds (rule : Rule) (fuel flow : Nat) (body : Body) (w : State) : Prop :=
  runHeeding rule (performHeeding rule fuel) flow body w =
    runBody (performWith fuel) flow body w

/-- Whether a guard is the youngest on a flow, and there are more open than `found`. -/
def closesOwn (found flow : Nat) (guard : String) (w : State) : Bool :=
  decide (found < openCount flow w) && (w.flow flow).scopes.head?.any fun s => s.name == guard

/-- Guards on the flow `on` are closed by the body that has opened them, the youngest first. The
host's store is left alone, if current contexts live there. -/
def nested (on : Nat) : Rule := fun found flow s w =>
  match s with
  | .close guard => flow != on || closesOwn found flow guard w
  | .request _ | .hostSet _ => !w.byRequest
  | _ => true

/-- The scopes of a body on its own flow are well nested, also with those of the work that it calls
there. -/
def WellNested (fuel flow : Nat) (body : Body) (w : State) : Prop :=
  Heeds (nested flow) fuel flow body w

/-- A step makes no piece of these, and takes nothing from the queue. -/
def Step.spares (pieces : List Piece) : Step → Bool
  | .runQueue => false
  | s => s.makes?.all fun k => !pieces.contains k

/-- Only such steps are done. -/
def sparing (pieces : List Piece) : Rule := fun _ _ s _ => s.spares pieces

theorem Step.not_makes_of_spares {pieces : List Piece} {s : Step} (h : s.spares pieces = true) :
    s ≠ .runQueue ∧ ∀ k ∈ pieces, s.makes? ≠ some k := by
  refine ⟨fun hRuns => ?_, fun k hMem hMakes => ?_⟩
  · rw [hRuns] at h
    cases h
  · cases s <;> simp_all [spares, makes?]

theorem performHeeding_eq {rule : Rule} (h : ∀ found flow s w, rule found flow s w = true)
    (fuel flow : Nat) (s : Step) : performHeeding rule fuel flow s = performWith fuel flow s := by
  induction fuel generalizing flow s with
  | zero => rfl
  | succ fuel ih =>
    have hAct : ∀ found, heeding rule found (performHeeding rule fuel) = performWith fuel := by
      intro found
      funext flow s w
      rw [heeding, if_pos (h found flow s w), ih]
    have hRun : runHeeding rule (performHeeding rule fuel) = runBody (performWith fuel) := by
      funext flow body w
      rw [runHeeding, hAct]
    rw [performHeeding, performWith, hRun]

theorem runSteps_congr {act act' : Step → Action Result} {body : Body}
    (h : ∀ s ∈ body, act s = act' s) (flow : Nat) (w : State) :
    runSteps act flow body w = runSteps act' flow body w := by
  induction body generalizing w with
  | nil => rfl
  | cons s rest ih =>
    have hRest := fun w => ih (fun t ht => h t (List.mem_cons_of_mem _ ht)) w
    rw [runSteps, runSteps, h s (List.mem_cons_self ..)]
    simp only [hRest]

/-- A body heeds a rule that allows its steps in every session, if they heed it. -/
theorem heeds_of_mem {rule : Rule} {fuel flow : Nat} {body : Body}
    (hRule : ∀ s ∈ body, ∀ found w, rule found flow s w = true)
    (hSteps : ∀ s ∈ body, performHeeding rule fuel flow s = performWith fuel flow s) (w : State) :
    Heeds rule fuel flow body w := by
  unfold Heeds runHeeding runBody
  rw [runSteps_congr]
  intro s hs
  funext w'
  rw [heeding, if_pos (hRule s hs _ w'), hSteps s hs]

/-! ## What is done under a rule -/

section Bodies

variable {R : State → State → Prop} [IsPreorder State R] {act : Step → Action Result}

/-- Steps one after another, each followed by its report. -/
theorem relates_runSteps (hReport : ∀ w : State, R w w.takeLog.2) (hAct : ∀ s, Relates R (act s))
    (flow : Nat) (body : Body) (w : State) : R w (runSteps act flow body w).2 := by
  induction body generalizing w with
  | nil => exact refl_of R w
  | cons s rest ih =>
    have hStep := hAct s w
    unfold Leads at hStep
    rw [runSteps]
    rcases hRan : act s w with ⟨halt | r, w'⟩ <;> rw [hRan] at hStep
    · exact hStep
    · exact trans_of R hStep (trans_of R (hReport w') (ih _))

/-- A step that a rule forbids changes nothing. -/
theorem relates_heeding {rule : Rule} {found flow : Nat} {acts : Nat → Step → Action Result}
    (hActs : ∀ s w, rule found flow s w = true → Leads R (acts flow s) w) (s : Step) :
    Relates R (heeding rule found acts flow s) := by
  intro w
  unfold Leads heeding
  split
  · rename_i hAllowed
    exact hActs s w hAllowed
  · exact refl_of R w

/-- What comes out of a body is how its steps and the closing of its guards have left the session.
-/
theorem snd_runBody (act : Nat → Step → Action Result) (flow : Nat) (body : Body) (w : State) :
    (runBody act flow body w).2 =
      closeDownTo (openCount flow w) flow (runSteps (act flow) flow body w).2 := by
  unfold runBody
  rcases runSteps (act flow) flow body w with ⟨⟨reports, halt?⟩, w'⟩
  rcases halt? with _ | ⟨message | name | _⟩ <;> rfl

end Bodies

end SpanFlow.Script
