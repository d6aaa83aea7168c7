import SpanFlow.Proofs.Script.Keeping
import SpanFlow.Script.Propagation

/-!
# What actions read

Many actions begin by reading what they work with. `Reads` says what is true of a thing that was
read; the session is as it was. Propagators are read too when they are made of their plans: what is
made has a property if those have it that have names, and if it goes from members to a whole.

## Main results

* `Reads.bind`: reading one thing after another.
* `Hereditary.reads`: what is true of all propagators that scripts make.
-/

namespace SpanFlow.Script

open Session

variable {α γ : Type} {C : Course}

/-- An action changes nothing, and what it has as a result has a property. -/
structure Reads (Q : α → Prop) (act : Action α) (w : State) : Prop where
  unchanged : (act w).2 = w
  result : ∀ a, (act w).1 = .ok a → Q a

namespace Reads

variable {Q : α → Prop} {w : State} {act : Action α}

theorem pure {a : α} (h : Q a) : Reads Q (pure a) w := ⟨rfl, fun _ hSame => by cases hSame; exact h⟩

theorem named {m : State → Assoc String α} (h : (m w).All Q) (name : String) :
    Reads Q (named m name) w := by
  refine ⟨readsOnly_named m name w, fun a hRan => ?_⟩
  rw [named_apply] at hRan
  split at hRan
  · rename_i x hGet
    cases hRan
    exact h.of_get? hGet
  · cases hRan

/-- Reading one thing after another. -/
theorem bind {Q' : γ → Prop} {next : α → Action γ} (h : Reads Q act w)
    (hNext : ∀ a, Q a → Reads Q' (next a) w) : Reads Q' (act >>= next) w := by
  obtain ⟨hSame, hResult⟩ := h
  rcases hRan : act w with ⟨halt | a, w'⟩ <;> rw [hRan] at hSame hResult <;> cases hSame
  · constructor
    · rw [bind_apply, hRan]
    · intro b hb
      rw [bind_apply, hRan] at hb
      cases hb
  · have hLater := hNext a (hResult a rfl)
    constructor
    · rw [bind_apply, hRan]
      exact hLater.unchanged
    · intro b hb
      rw [bind_apply, hRan] at hb
      exact hLater.result b hb

/-- What follows starts where the reading did, with what was read. -/
theorem leaves {next : α → Action γ} (h : Reads Q act w) (hw : Backed C w)
    (hNext : ∀ a, Q a → Leaves C (next a) w) : Leaves C (act >>= next) w := by
  obtain ⟨hSame, hResult⟩ := h
  refine leaves_cases (fun halt w' hRan => ?_) fun a w' hRan => ?_ <;>
    rw [hRan] at hSame hResult <;> cases hSame
  · exact hw
  · exact hNext a (hResult a rfl)

end Reads

/-! ## Propagators -/

/-- A property that the propagators which a script makes have, if those have it of which they are
made. -/
structure Hereditary (Q : Propagator → Prop) : Prop where
  noop : Q .noop
  jaeger : ∀ header, Q (.jaeger header)
  ofKey : ∀ key header fields, Q (.ofKey key header fields)
  composite : ∀ {members}, (∀ p ∈ members, Q p) → Q (.composite members)

mutual

/-- What is true of the propagators under names is true of those that are made. -/
theorem Hereditary.reads {Q : Propagator → Prop} (hQ : Hereditary Q) {w : State}
    (hNamed : w.propagators.All Q) : (plan : PropagatorPlan) → Reads Q (makePropagator plan) w
  | .noop => by
    rw [makePropagator]
    exact .pure hQ.noop
  | .jaeger none => by
    rw [makePropagator]
    exact .pure (hQ.jaeger _)
  | .jaeger (some header) => by
    rw [makePropagator]
    exact .pure (hQ.jaeger _)
  | .named name => by
    rw [makePropagator]
    exact .named hNamed name
  | .ofKey key header fields? => by
    rw [makePropagator]
    have hKey : Reads (fun _ => True) (named World.keys key) w := .named (fun _ _ => trivial) key
    exact hKey.bind fun k _ => .pure (hQ.ofKey k header _)
  | .composite members => by
    rw [makePropagator]
    exact (hQ.reads_all hNamed members).bind fun _ hps => .pure (hQ.composite hps)

theorem Hereditary.reads_all {Q : Propagator → Prop} (hQ : Hereditary Q) {w : State}
    (hNamed : w.propagators.All Q) :
    (plans : List PropagatorPlan) → Reads (∀ p ∈ ·, Q p) (makePropagators plans) w
  | [] => by
    rw [makePropagators]
    exact .pure (List.forall_mem_nil _)
  | plan :: rest => by
    rw [makePropagators]
    exact (hQ.reads hNamed plan).bind fun _ hp => (hQ.reads_all hNamed rest).bind fun _ hps =>
      .pure (List.forall_mem_cons.2 ⟨hp, hps⟩)

end

theorem reads_propagatorOr {Q : Propagator → Prop} {w : State} (hNamed : w.propagators.All Q)
    (hGlobal : Q w.global) (name? : Option String) : Reads Q (propagatorOr name?) w := by
  cases name? with
  | none => exact ⟨rfl, fun _ hRan => by cases hRan; exact hGlobal⟩
  | some name => exact .named hNamed name

end SpanFlow.Script
