import Mathlib.Data.List.Induction
import SpanFlow.Proofs.Session.Moves

/-!
# Guards that are closed out of turn

Guards may be closed in any order, by scopes and by calls of work, and the host may write to its
store in between. What a guard puts back is settled when it is made: the context that was current
then, unless it was current already what is attached. A guard of the first kind puts this context
back whatever has happened since, and warns if it finds another context than its own. A guard of the
second kind has nothing to put back and does nothing, so that what was attached over it, or written
by the host, stays.

## Main results

* `Scene.exists_origin`: every guard that is held has been made by a move of the run.
* `Scene.close_held`: what closing a guard does, told from what was current when it was made.
* `closing_restores`: both together, and for which guards closing restores.
-/

namespace SpanFlow.Session

variable {β : Type}

namespace Scene

/-- A guard that is held after a run was made by a move of it, and is still as it was made. -/
theorem exists_origin (w : World β) (run : List (Nat × Move)) :
    ∀ h ∈ (after ⟨w, []⟩ run).holds, ∃ before cx between,
      run = before ++ (h.flow, .attach h.holder cx) :: between ∧
        h.guard = (after ⟨w, []⟩ before).world.supply ∧
        Assoc.get? (after ⟨w, []⟩ run).world.guards h.guard =
          some (Guard.of ((after ⟨w, []⟩ before).world.current h.flow) cx) := by
  induction run using List.reverseRecOn with
  | nil =>
    intro h hh
    simp [after] at hh
  | append_singleton run step ih =>
    intro h hh
    obtain ⟨flow, m⟩ := step
    have hLast : after ⟨w, []⟩ (run ++ [(flow, m)]) = (after ⟨w, []⟩ run).move flow m :=
      after_append ..
    rw [hLast] at hh ⊢
    rcases get?_guards_move ((ordered_start w).after run) flow m h hh with
      ⟨hOld, hSame⟩ | ⟨holder, cx, rfl, rfl, hNew⟩
    · obtain ⟨before, cx, between, hRun, hGuard, hMade⟩ := ih h hOld
      refine ⟨before, cx, between ++ [(flow, m)], ?_, hGuard, hSame.trans hMade⟩
      rw [hRun, List.append_assoc, List.cons_append]
    · exact ⟨run, cx, [], rfl, rfl, hNew⟩

/-- Closing a guard, told from what was current when it was made. -/
theorem close_held {s : Scene β} {flow : Nat} {holder : Holder} {h : Hold} {found cx : Context}
    (hHeld : s.held? flow holder = some h)
    (hMade : Assoc.get? s.world.guards h.guard = some (Guard.of found cx)) :
    (s.move flow (.close holder)).world.current flow =
        (if found.same cx then s.world.current flow else found) ∧
      s.warnings flow (.close holder) =
        if !found.same cx && !(s.world.current flow).same cx then [.outOfOrderClose] else [] := by
  rw [warnings, move_close hHeld]
  exact ⟨World.current_closeGuard hMade flow, World.warned_closeGuard_of hMade flow⟩

end Scene

/-- **What closing a guard restores.** Whatever guards are open and in whatever order they are
closed, a guard that has displaced a context makes it current again, and warns just if another
context than its own is current. A guard of a context that was current already leaves what is
current and never warns. So the rule that closing makes current what was so before the attaching,
with a warning just if another context has come in between, holds unless both are so: the guard has
displaced nothing, and something else is current now. -/
theorem closing_restores (w : World β) (run : List (Nat × Move)) (flow : Nat) (holder : Holder)
    (h : Hold) (hHeld : (Scene.after ⟨w, []⟩ run).held? flow holder = some h) :
    ∃ before cx between, run = before ++ (flow, .attach holder cx) :: between ∧
      h.guard = (Scene.after ⟨w, []⟩ before).world.supply ∧
      let found := (Scene.after ⟨w, []⟩ before).world.current flow
      let s := Scene.after ⟨w, []⟩ run
      let now := s.world.current flow
      let closed := (s.move flow (.close holder)).world.current flow
      let warnings := s.warnings flow (.close holder)
      (found.same cx = false →
        closed = found ∧ warnings = if now.same cx then [] else [.outOfOrderClose]) ∧
      (found.same cx = true → closed = now ∧ warnings = []) ∧
      ((closed.same found = true ∧ (warnings = [] ↔ now.same cx = true)) ↔
        found.same cx = false ∨ now.same cx = true) := by
  have hOf := Scene.isOf_of_held? hHeld
  simp only [Hold.isOf, Bool.and_eq_true, beq_iff_eq] at hOf
  obtain ⟨rfl, rfl⟩ := hOf
  obtain ⟨before, cx, between, hRun, hGuard, hMade⟩ :=
    Scene.exists_origin w run h (Scene.mem_of_held? hHeld)
  obtain ⟨hClosed, hWarnings⟩ := Scene.close_held hHeld hMade
  refine ⟨before, cx, between, hRun, hGuard, ?_⟩
  dsimp only
  rw [hClosed, hWarnings]
  generalize (Scene.after ⟨w, []⟩ before).world.current h.flow = found
  generalize (Scene.after ⟨w, []⟩ run).world.current h.flow = now
  cases hFound : found.same cx with
  | false => cases hNow : now.same cx <;> simp
  | true =>
    have hSame : now.same found = now.same cx := by
      rw [Bool.eq_iff_iff]
      exact ⟨fun h => Context.same_trans h hFound,
        fun h => Context.same_trans h (Context.same_symm cx found ▸ hFound)⟩
    cases hNow : now.same cx <;> simp [hSame, hNow]

/-- A context with one text in it, as the instance with this number. -/
def marked (id : Nat) : Context := Context.root.withValue id 1 (.text "x")

/-- The guard that was made first is closed first: what was current before both is so again. -/
theorem closing_restores_crossed :
    let s : Scene Unit := Scene.after ⟨.initial false .plain, []⟩
      [(1, .attach (.scope "outer") (marked 7)), (1, .attach (.scope "inner") (marked 8))]
    s.held? 1 (.scope "outer") = some ⟨1, .scope "outer", 2, .thread 1⟩ ∧
      (s.move 1 (.close (.scope "outer"))).world.current 1 = .root ∧
      s.warnings 1 (.close (.scope "outer")) = [.outOfOrderClose] := by
  intro s
  have hHeld : s.held? 1 (.scope "outer") = some ⟨1, .scope "outer", 2, .thread 1⟩ := rfl
  obtain ⟨before, cx, between, hRun, -, hDisplacing, -⟩ := closing_restores _ _ _ _ _ hHeld
  obtain rfl : before = [] := by
    rcases before with _ | ⟨first, _ | ⟨second, others⟩⟩ <;> simp at hRun ⊢
  obtain ⟨rfl, -⟩ : marked 7 = cx ∧ _ := by simpa using hRun
  exact ⟨hHeld, hDisplacing rfl⟩

/-- A guard of the root that is made while the root is current does not bring the root back, and
does not warn, when it is closed while another context is current. -/
theorem closing_leaves_attached_over :
    let s : Scene Unit := Scene.after ⟨.initial false .plain, []⟩
      [(1, .attach (.scope "outer") .root), (1, .attach (.scope "inner") (marked 7))]
    (World.initial false .plain : World Unit).current 1 = .root ∧
      s.held? 1 (.scope "outer") = some ⟨1, .scope "outer", 2, .thread 1⟩ ∧
      (s.world.current 1).same .root = false ∧
      ((s.move 1 (.close (.scope "outer"))).world.current 1).same .root = false ∧
      s.warnings 1 (.close (.scope "outer")) = [] :=
  ⟨rfl, rfl, rfl, rfl, rfl⟩

end SpanFlow.Session
