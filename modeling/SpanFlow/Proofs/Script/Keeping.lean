import SpanFlow.Proofs.Script.Action
import SpanFlow.Proofs.Session.Backing

/-!
# Keeping sessions backed

What an action of a script must do to a session: leave it backed by an estate. The rules here put
that together from the parts of an action. Reading leaves a session as it is, and what is read from
a backed session is backed; so the rules for reading hand on what was found to what comes next.

No later proof about handles opens the monad: an action is taken apart by these rules alone.

## Main results

* `leaves_cases`, `leaves_bind`: one action after another.
* `leaves_named`, `leaves_contextOr`: what is read by name is there, with a handle to it.
* `leaves_under`, `leaves_keeping`, `keeps_onNewFlow`: actions within a scope.
-/

namespace SpanFlow.Script

open Session

variable {α γ : Type}

/-- What an action leaves of a session is backed. -/
def Leaves (C : Course) (act : Action α) (w : State) : Prop := Backed C (act w).2

/-- An action leaves every session backed that it finds so. -/
def Keeps (C : Course) (act : Action α) : Prop := ∀ w, Backed C w → Leaves C act w

/-- An action changes nothing. -/
def ReadsOnly (act : Action α) : Prop := ∀ w, (act w).2 = w

section Rules

variable {C : Course} {E : Estate} {w : State} {act : Action α} {next : α → Action γ}

/-- What an action leaves that goes on as another one. -/
theorem leaves_cases (hHalt : ∀ halt w', act w = (.error halt, w') → Backed C w')
    (hOk : ∀ a w', act w = (.ok a, w') → Leaves C (next a) w') : Leaves C (act >>= next) w := by
  unfold Leaves
  rw [bind_apply]
  rcases hRan : act w with ⟨halt | a, w'⟩
  · exact hHalt halt w' hRan
  · exact hOk a w' hRan

theorem ReadsOnly.keeps (h : ReadsOnly act) : Keeps C act := by
  intro w hw
  unfold Leaves
  rw [h w]
  exact hw

theorem ReadsOnly.bind (h : ReadsOnly act) (hNext : ∀ a, ReadsOnly (next a)) :
    ReadsOnly (act >>= next) := by
  intro w
  have hAct := h w
  rw [bind_apply]
  rcases hRan : act w with ⟨halt | a, w'⟩ <;> rw [hRan] at hAct
  · exact hAct
  · cases hAct
    exact hNext a _

/-- What follows an action that changes nothing starts where that one did. -/
theorem ReadsOnly.leaves (h : ReadsOnly act) (hw : Backed C w)
    (hNext : ∀ a, act w = (.ok a, w) → Leaves C (next a) w) : Leaves C (act >>= next) w := by
  have hSame := h w
  refine leaves_cases (fun halt w' hRan => ?_) fun a w' hRan => ?_
  · rw [hRan] at hSame
    cases hSame
    exact hw
  · rw [hRan] at hSame
    cases hSame
    exact hNext a hRan

theorem readsOnly_pure (a : α) : ReadsOnly (pure a) := fun _ => rfl

theorem readsOnly_throw (halt : Halt) : ReadsOnly (throw halt : Action α) := fun _ => rfl

theorem readsOnly_ask (f : State → α) : ReadsOnly (ask f) := fun _ => rfl

theorem named_apply (m : State → Assoc String α) (name : String) (w : State) :
    named m name w =
      match Assoc.get? (m w) name with
      | some x => (.ok x, w)
      | none => (.error (.unknownName name), w) := by
  unfold named
  cases h : Assoc.get? (m w) name <;>
    simp [bind_apply, h, pure_apply, throw_apply, show (get : Action State) w = (.ok w, w) from rfl]

theorem readsOnly_named (m : State → Assoc String α) (name : String) :
    ReadsOnly (named m name) := by
  intro w
  rw [named_apply]
  split <;> rfl

theorem readsOnly_contextOr (flow : Nat) (cx? : Option String) :
    ReadsOnly (contextOr flow cx?) := by
  cases cx? with
  | none => exact readsOnly_ask _
  | some name => exact readsOnly_named _ _

/-- An action that leaves a session backed can be followed by one that keeps it backed. -/
theorem leaves_bind (h : Leaves C act w) (hNext : ∀ a, Keeps C (next a)) :
    Leaves C (act >>= next) w := by
  unfold Leaves at h
  refine leaves_cases (fun halt w' hRan => ?_) fun a w' hRan => ?_
  · rw [hRan] at h
    exact h
  · rw [hRan] at h
    exact hNext a w' h

theorem Keeps.bind (h : Keeps C act) (hNext : ∀ a, Keeps C (next a)) : Keeps C (act >>= next) :=
  fun w hw => leaves_bind (h w hw) hNext

/-- What is read by name is there. -/
theorem leaves_named {m : State → Assoc String α} {name : String} (hw : Backed C w)
    (hNext : ∀ x, Assoc.get? (m w) name = some x → Leaves C (next x) w) :
    Leaves C (named m name >>= next) w := by
  refine (readsOnly_named m name).leaves hw fun x hRan => hNext x ?_
  rw [named_apply] at hRan
  split at hRan
  · rename_i other hGet
    cases hRan
    exact hGet
  · cases hRan

theorem leaves_map {f : α → γ} (h : Leaves C act w) : Leaves C (f <$> act) w := by
  rw [map_eq_pure_bind]
  exact leaves_bind h fun _ => (readsOnly_pure _).keeps

theorem ReadsOnly.map (h : ReadsOnly act) (f : α → γ) : ReadsOnly (f <$> act) := by
  rw [map_eq_pure_bind]
  exact h.bind fun _ => readsOnly_pure _

theorem leaves_pure {a : α} (h : Leaves C (next a) w) : Leaves C (pure a >>= next) w := h

theorem leaves_ask {f : State → α} (h : Leaves C (next (f w)) w) :
    Leaves C (ask f >>= next) w := h

theorem leaves_get {next : State → Action γ} (h : Leaves C (next w) w) :
    Leaves C (get >>= next) w := h

theorem leaves_change {f : State → α × State} (h : Leaves C (next (f w).1) (f w).2) :
    Leaves C (change f >>= next) w := h

theorem leaves_modify {f : State → State} {next : Unit → Action γ}
    (h : Leaves C (next ()) (f w)) : Leaves C (modify f >>= next) w := h

/-- A context that is read, by name or as the current one, is there with a handle to it. -/
theorem leaves_contextOr {next : Context → Action γ} {flow : Nat} {cx? : Option String}
    (h : BackedBy C E w) (hNext : ∀ cx, E.Backs (.context cx) → Leaves C (next cx) w) :
    Leaves C (contextOr flow cx? >>= next) w := by
  cases cx? with
  | none => exact hNext _ (h.backs_current flow)
  | some name => exact leaves_named ⟨E, h⟩ fun cx hGet => hNext cx (h.contexts.of_get? hGet)

/-- What is read by a name that may be left out is there, if it is not. -/
theorem leaves_optional {next : Option Context → Action γ} {cx? : Option String}
    (h : BackedBy C E w)
    (hNext : ∀ context?, (∀ cx ∈ context?, E.Backs (.context cx)) → Leaves C (next context?) w) :
    Leaves C (cx?.mapM (named World.contexts) >>= next) w := by
  cases cx? with
  | none => exact hNext none (fun _ hNone => nomatch hNone)
  | some name =>
    rw [Option.mapM_some, map_eq_pure_bind, bind_assoc]
    refine leaves_named ⟨E, h⟩ fun cx hGet => hNext (some cx) fun other hOther => ?_
    cases hOther
    exact h.contexts.of_get? hGet

theorem leaves_storeContext {cx : Context} (h : BackedBy C E w) (target : String)
    (hcx : E.Backs (.context cx)) : Leaves C (storeContext target cx) w := h.nameContext target hcx

/-- What keeps a session backed behind a guard does so under the context of that guard. -/
theorem leaves_under {flow : Nat} {cx : Context} (h : Leaves C act (w.openGuard flow cx).2) :
    Leaves C (under flow cx act) w := Backed.closeGuard h flow _

theorem leaves_underOptional {flow : Nat} {cx? : Option Context} (h : BackedBy C E w)
    (hcx : ∀ cx ∈ cx?, E.Backs (.context cx)) (hAct : Keeps C act) :
    Leaves C (underOptional flow cx? act) w := by
  cases cx? with
  | none => exact hAct w ⟨E, h⟩
  | some cx => exact leaves_under (hAct _ ⟨E, h.openGuard flow (hcx cx rfl)⟩)

theorem leaves_keeping {x : Holding} (h : Leaves C act (w.pin x).2) :
    Leaves C (keeping x act) w := Backed.unpin h _

/-- What keeps a session backed on every flow does so on a new one. -/
theorem keeps_onNewFlow {act : Nat → Action α} (h : ∀ flow, Keeps C (act flow)) :
    Keeps C (onNewFlow act) := by
  rintro w ⟨E, hE⟩
  exact (h _ _ ⟨E, hE.beginFlow⟩).endFlow _

end Rules

end SpanFlow.Script
