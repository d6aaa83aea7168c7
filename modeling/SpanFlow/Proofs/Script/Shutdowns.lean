import SpanFlow.Proofs.Recording.Closing
import SpanFlow.Proofs.Script.Heeding

/-!
# Scripts that shut providers down

What holds of all estates holds of all scripts, since every session of a script is backed by one.
The estate is not just any: a provider is asked to shut down in it by a step of the script that does
so and by nothing else, and such a step answers what the estate answers. It is the same with steps
that flush a provider. A step that lets something go leaves the estate with what the session still
holds.

Which providers a script asks is said by a rule for its bodies, because a step may stand in work
that is run much later, or never.

## Main results

* `backed_of_heeds`: a body that asks certain providers only has an estate that has asked no others.
* `shut_down_once`: providers are shut down once, in estates and in sessions.
-/

namespace SpanFlow.Script

open Session

variable {C : Course}

/-- Only these providers are asked to shut down. -/
def askingOnly (asked : Nat → Bool) : Rule := fun _ _ s w =>
  match s with
  | .shutdown name => (Assoc.get? w.providers name).all asked
  | _ => true

theorem askingOnly_shutdown {asked : Nat → Bool} {found flow : Nat} {name : String} {w : State}
    (h : askingOnly asked found flow (.shutdown name) w = true) {p : Nat}
    (hGet : Assoc.get? w.providers name = some p) : asked p = true := by
  rw [askingOnly, hGet] at h
  exact h

/-- Under the rule, bodies leave sessions backed that steps leave so. -/
theorem keeps_runHeeding {rule : Rule} {act : Nat → Step → Action Result}
    (hAct : ∀ found flow s w, Backed C w → rule found flow s w = true → Leaves C (act flow s) w)
    (flow : Nat) (body : Body) : Keeps C (runHeeding rule act flow body) := by
  intro w hw
  refine keeps_runBody (fun flow s w hw => ?_) flow body w hw
  unfold Leaves heeding
  split
  · rename_i hAllowed
    exact hAct _ flow s w hw hAllowed
  · exact hw

/-- By induction on the depth to which bodies run bodies. -/
theorem leaves_performHeeding {asked : Nat → Bool} (hAsked : ∀ p, asked p = true → C.asked p)
    (fuel found flow : Nat) (s : Step) (w : State) (hw : Backed C w)
    (hRule : askingOnly asked found flow s w = true) :
    Leaves C (performHeeding (askingOnly asked) fuel flow s) w := by
  induction fuel generalizing found flow s w with
  | zero => exact hw
  | succ fuel ih =>
    have hRun : ∀ flow body,
        Keeps C
          (runHeeding (askingOnly asked) (performHeeding (askingOnly asked) fuel) flow body) :=
      keeps_runHeeding fun found flow s w hw hRule => ih found flow s w hw hRule
    refine leaves_perform hRun fuel flow hw ?_
    rintro name p rfl hGet
    exact hAsked p (askingOnly_shutdown hRule hGet)

/-- A body that asks certain providers only leaves a session backed on a course on which they may be
asked. -/
theorem backed_of_heeds {asked : Nat → Bool} (hAsked : ∀ p, asked p = true → C.asked p)
    {fuel flow : Nat} {body : Body} {w : State} (hw : Backed C w)
    (hHeeds : Heeds (askingOnly asked) fuel flow body w) :
    Backed C (runBody (performWith fuel) flow body w).2 := by
  rw [← hHeeds]
  exact keeps_runHeeding (leaves_performHeeding hAsked fuel) flow body w hw

/-- What steps do in a session that an estate backs which shut a provider down, flush it or let
something go. -/
structure FollowedBy (C : Course) (E : Estate) (w : State) : Prop where
  /-- A shutdown is one of the estate, with its answer. -/
  shutdown : ∀ run fuel flow name p, Assoc.get? w.providers name = some p → C.asked p →
    ∃ w', perform run fuel flow (.shutdown name) w =
        (.ok (.answered (E.telemetry.shutdown p).2), w') ∧
      BackedBy C (E.step (.act (.shutdown p))) w'
  /-- A flush is one of the estate, with its answer. -/
  flush : ∀ run fuel flow name p, Assoc.get? w.providers name = some p →
    ∃ w', perform run fuel flow (.flush name) w =
        (.ok (.answered (E.telemetry.flush p).2), w') ∧
      BackedBy C (E.step (.act (.flush p))) w'
  /-- What is let go is handed on no longer. -/
  release : ∀ run fuel flow kind name,
    ∃ present w', perform run fuel flow (.release kind name) w = (.ok (.flag present), w') ∧
      BackedBy C (E.step (.hand w'.holdings)) w'

theorem followedBy_of_backedBy {E : Estate} {w : State} (h : BackedBy C E w) :
    FollowedBy C E w where
  shutdown _ _ _ _ _ hGet hAsked := shutdown_of_get? h hGet hAsked
  flush _ _ _ _ _ hGet := flush_of_get? h hGet
  release _ _ _ kind name := release_backedBy h kind name

/-- **Shut down once.** However handles are copied, moved and let go, a provider is shut down once:
by the first call that asks for it while there is a handle, and otherwise when the last handle goes
and not before. From then on it refuses everything and none of its spans is exported. If it was
never asked, all that was to be exported has reached its exporters before they are shut down. This
holds of every estate, and so of what any script leaves in the hands of its session. The estate of a
script has asked only those providers to shut down which the script has asked, and the steps that
shut down, flush or let go are moves of the estate and answer as it does. -/
theorem shut_down_once :
    (∀ moves, (Estate.empty.run moves).ShutDownOnce) ∧
      (∀ (fuel flow : Nat) (body : Body) (byRequest : Bool) (environment : Surroundings),
        let w := (runBody (performWith fuel) flow body (World.initial byRequest environment)).2
        (∃ E : Estate, E.ShutDownOnce ∧ E.telemetry = w.settle.telemetry ∧
          E.held = w.settle.holdings) ∧
        ∀ asked, Heeds (askingOnly asked) fuel flow body (World.initial byRequest environment) →
          ∃ E : Estate, BackedBy ⟨.empty, fun p => asked p = true⟩ E w.settle ∧ E.ShutDownOnce ∧
            E.held = w.settle.holdings ∧
            ∀ p, Telemetry.Act.shutdown p ∈ E.acts → asked p = true) ∧
      ∀ {C : Course} {E : Estate} {w : State}, BackedBy C E w → FollowedBy C E w := by
  refine ⟨Estate.shutDownOnce_run, fun fuel flow body byRequest environment =>
    ⟨?_, fun asked hHeeds => ?_⟩, followedBy_of_backedBy⟩
  · obtain ⟨moves, hTelemetry, hHeld⟩ := exists_estate fuel flow body byRequest environment
    exact ⟨Estate.empty.run moves, Estate.shutDownOnce_run moves, hTelemetry, hHeld⟩
  · obtain ⟨E, hE⟩ := backed_of_heeds (fun _ => id)
      (backed_initial (fun p => asked p = true) byRequest environment) hHeeds
    have hSettled := hE.settle
    obtain ⟨moves, hMoves⟩ := hSettled.came
    refine ⟨_, hSettled, ?_, ?_, hSettled.asked⟩
    · rw [hMoves]
      exact Estate.shutDownOnce_run moves
    · rw [Estate.step_hand hE.reachesWithin_holdings]
      rfl

/-- A script that sets a provider up and lets it go. -/
def lettingGo : Body :=
  [.exporter "e" .memory, .provider "p" ⟨["e"], none, none, none⟩ false, .release .provider "p"]

/-- It asks nobody to shut down. The provider is closed, and so there is no handle to it. -/
theorem shut_down_once_let_go :
    let w := (runBody (performWith 1) 1 lettingGo (World.initial false .plain)).2
    Heeds (askingOnly fun _ => false) 1 1 lettingGo (World.initial false .plain) ∧
      ∃ E : Estate, E.telemetry = w.settle.telemetry ∧ (∀ p, Telemetry.Act.shutdown p ∉ E.acts) ∧
        E.telemetry.isClosed 0 = true ∧ ¬ E.HasHandle 0 := by
  intro w
  have hHeeds : Heeds (askingOnly fun _ => false) 1 1 lettingGo (World.initial false .plain) := by
    refine heeds_of_mem ?_ ?_ _
    · intro s hs found w
      simp only [lettingGo, List.mem_cons, List.not_mem_nil, or_false] at hs
      rcases hs with rfl | rfl | rfl <;> rfl
    · intro s hs
      simp only [lettingGo, List.mem_cons, List.not_mem_nil, or_false] at hs
      rcases hs with rfl | rfl | rfl <;> rfl
  obtain ⟨E, hBacked, hOnce, -, hAsked⟩ :=
    (shut_down_once.2.1 1 1 lettingGo false .plain).2 _ hHeeds
  have hNone : ∀ p, Telemetry.Act.shutdown p ∉ E.acts := fun p hp => nomatch hAsked p hp
  have hClosed : E.telemetry.isClosed 0 = true := by
    rw [← hBacked.telemetry]
    decide +kernel
  have hThere : 0 < E.telemetry.providers.length := by
    rw [← hBacked.telemetry]
    decide +kernel
  have hGone := ((hOnce.closed 0 hThere).1 hClosed).resolve_left (hNone 0)
  exact ⟨hHeeds, E, hBacked.telemetry.symm, hNone, hClosed, hGone⟩

end SpanFlow.Script
