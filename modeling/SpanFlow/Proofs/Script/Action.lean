import SpanFlow.Script.Action

/-!
# Running actions

An action is a function from a session to a result and a session. These are the equations that say
so for everything that actions are put together from, so that no later proof opens the monad.

## Main results

* `bind_apply`: an action goes on where the one before it has left the session, unless that halted.
* `under_apply`: an action under a context runs between the opening and the closing of a guard.
-/

namespace SpanFlow.Script

open Session

variable {α γ : Type}

theorem pure_apply (a : α) (w : State) : (pure a : Action α) w = (.ok a, w) := rfl

theorem get_apply (w : State) : (get : Action State) w = (.ok w, w) := rfl

theorem throw_apply (halt : Halt) (w : State) : (throw halt : Action α) w = (.error halt, w) := rfl

/-- An action goes on where the one before it has left the session, unless that halted. -/
theorem bind_apply (act : Action α) (next : α → Action γ) (w : State) :
    (act >>= next) w =
      match act w with
      | (.ok a, w) => next a w
      | (.error halt, w) => (.error halt, w) := by
  show (StateT.bind act (ExceptT.bindCont next) : StateM State _) w = _
  unfold StateT.bind
  rcases act w with ⟨_ | a, w'⟩ <;> rfl

theorem tryCatch_apply (act : Action α) (handle : Halt → Action α) (w : State) :
    tryCatch act handle w =
      match act w with
      | (.ok a, w) => (.ok a, w)
      | (.error halt, w) => handle halt w := by
  rcases h : act w with ⟨halt | a, w'⟩
  · simp [tryCatch, tryCatchThe, MonadExceptOf.tryCatch, ExceptT.tryCatch, ExceptT.mk, bind,
      StateT.bind, h]
  · simp [tryCatch, tryCatchThe, MonadExceptOf.tryCatch, ExceptT.tryCatch, ExceptT.mk, bind,
      StateT.bind, h]
    rfl

/-- An action under a context runs between the opening and the closing of a guard, also if it halts.
-/
theorem under_apply (flow : Nat) (cx : Context) (act : Action α) (w : State) :
    under flow cx act w =
      ((act (w.openGuard flow cx).2).1,
        (act (w.openGuard flow cx).2).2.closeGuard flow (w.openGuard flow cx).1) := rfl

end SpanFlow.Script
