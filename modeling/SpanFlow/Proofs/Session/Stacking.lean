import SpanFlow.Proofs.Session.Isolation
import SpanFlow.Proofs.Session.OutOfTurn

/-!
# Closing a guard beneath others

As long as a flow closes no other guard than the innermost that it has open, its guards lie on each
other: each of them has found the context of the one beneath it current, and the lowest one the
context with which the flow began. `Stacked` says so. It is kept by attaching, by closing the
innermost guard, and by whatever other flows do elsewhere.

The first guard that is closed beneath others finds the context of the innermost one current. So it
is noticed just if it has displaced a context and the innermost guard is for another instance than
its own. Where a context is attached twice, with another one in between, the lower guard is closed
unnoticed; where all contexts are different instances, none is.

## Main results

* `Scene.stacked_move`, `Scene.stacked_after`: guards stay stacked.
* `Stacked.displaced`: guards of different contexts have all displaced one.
* `closing_beneath`: what the first closing out of order does, and when it is noticed.
-/

namespace SpanFlow

namespace Guard

@[simp] theorem attached_of (current cx : Context) : (Guard.of current cx).attached = cx := by
  unfold Guard.of
  split <;> rfl

theorem isNone_previous?_of (current cx : Context) :
    (Guard.of current cx).previous?.isNone = current.same cx := by
  unfold Guard.of
  split <;> simp_all

end Guard

namespace Session

variable {β : Type}

/-! ## Guards that lie on each other -/

/-- Guards that lie on each other, the innermost first, while `now` is current. Each one is for a
context that was current until the one on it was made, and the lowest has found the context with
which the flow began. -/
def Stacked (guards : Assoc Nat Guard) (began : Context) : Context → List Hold → Prop
  | now, [] => now.same began = true
  | now, h :: below => ∃ found cx, Assoc.get? guards h.guard = some (Guard.of found cx) ∧
      now.same cx = true ∧ Stacked guards began found below

/-- The contexts that these guards are for. -/
def attachedIn (guards : Assoc Nat Guard) (holds : List Hold) : List Context :=
  holds.filterMap fun h => (Assoc.get? guards h.guard).map Guard.attached

namespace Stacked

variable {guards guards' : Assoc Nat Guard} {began now other : Context} {holds : List Hold}

theorem congr (h : Stacked guards began now holds)
    (hSame : ∀ x ∈ holds, Assoc.get? guards' x.guard = Assoc.get? guards x.guard) :
    Stacked guards' began now holds := by
  induction holds generalizing now with
  | nil => exact h
  | cons x below ih =>
    obtain ⟨found, cx, hGuard, hNow, hBelow⟩ := h
    obtain ⟨hFirst, hRest⟩ := List.forall_mem_cons.1 hSame
    exact ⟨found, cx, hFirst.trans hGuard, hNow, ih hBelow hRest⟩

/-- It does not matter which of two equal instances is current. -/
theorem of_same (h : Stacked guards began now holds) (hSame : other.same now = true) :
    Stacked guards began other holds := by
  cases holds with
  | nil => exact Context.same_trans hSame h
  | cons x below =>
    obtain ⟨found, cx, hGuard, hNow, hBelow⟩ := h
    exact ⟨found, cx, hGuard, Context.same_trans hSame hNow, hBelow⟩

/-- What is current is the context of the innermost guard, or the one with which the flow began. -/
theorem exists_same (h : Stacked guards began now holds) :
    ∃ cx ∈ attachedIn guards holds ++ [began], now.same cx = true := by
  cases holds with
  | nil => exact ⟨began, List.mem_append_right _ (List.mem_singleton_self began), h⟩
  | cons x below =>
    obtain ⟨found, cx, hGuard, hNow, -⟩ := h
    exact ⟨cx, by simp [attachedIn, hGuard], hNow⟩

/-- Guards of contexts that are all different instances have each displaced one. -/
theorem displaced (h : Stacked guards began now holds)
    (hDistinct : (attachedIn guards holds ++ [began]).Pairwise fun a b => a.same b = false) :
    ∀ x ∈ holds, ∀ found cx, Assoc.get? guards x.guard = some (Guard.of found cx) →
      found.same cx = false := by
  induction holds generalizing now with
  | nil => simp
  | cons y below ih =>
    obtain ⟨found', cx', hGuard, -, hBelow⟩ := h
    have hContexts : attachedIn guards (y :: below) = cx' :: attachedIn guards below := by
      simp [attachedIn, hGuard]
    rw [hContexts, List.cons_append, List.pairwise_cons] at hDistinct
    obtain ⟨hFirst, hRest⟩ := hDistinct
    intro x hx found cx hMade
    rcases List.mem_cons.1 hx with rfl | hx
    · -- What the guard found is the context beneath it, and so another than its own.
      obtain ⟨beneath, hBeneath, hSame⟩ := hBelow.exists_same
      have hDifferent : found'.same cx' = false := by
        refine Bool.eq_false_iff.2 fun hFound => ?_
        rw [Context.same_symm] at hFound
        have hAgain := Context.same_trans hFound hSame
        rw [hFirst beneath hBeneath] at hAgain
        cases hAgain
      have hOne : Guard.of found cx = Guard.of found' cx' :=
        Option.some.inj (hMade.symm.trans hGuard)
      rw [← Guard.isNone_previous?_of, hOne, Guard.isNone_previous?_of, hDifferent]
    · exact ih hBelow hRest x hx found cx hMade

end Stacked

namespace Scene

/-! ## Keeping to the order -/

/-- The guards that a flow holds, the innermost first. -/
def heldBy (s : Scene β) (flow : Nat) : List Hold := s.holds.filter (·.flow == flow)

/-- Whether a move keeps to the order of the guards of a flow. What the flow closes has to be its
innermost guard, and what others do may not be done on its slot. -/
def isInTurn (s : Scene β) (flow mover : Nat) (m : Move) : Bool :=
  if mover = flow then
    match m with
    | .read | .hostGet | .attach _ _ => true
    | .close holder => (s.heldBy flow).head?.any fun top => top.holder == holder
    | .hostSet _ | .rebind _ => false
  else s.slotOf? mover m != some (s.world.slotOf flow)

/-- Whether all moves of a run keep to the order of the guards of a flow. -/
def keepsTurns (s : Scene β) (flow : Nat) : List (Nat × Move) → Bool
  | [] => true
  | (mover, m) :: rest => s.isInTurn flow mover m && (s.move mover m).keepsTurns flow rest

section Innermost

variable {s : Scene β} {flow : Nat} {holder : Holder} {top : Hold} {below : List Hold}

theorem flow_of_mem_heldBy {h : Hold} (hh : h ∈ s.heldBy flow) : h.flow = flow := by
  simpa using (List.mem_filter.1 hh).2

/-- The innermost guard is what is closed for its holder, and those beneath it are left. -/
theorem heldBy_close (hTop : s.heldBy flow = top :: below) :
    s.held? flow top.holder = some top ∧ (s.move flow (.close top.holder)).heldBy flow = below := by
  obtain ⟨younger, older, hHolds, hYounger, hOwn, hBelow⟩ := List.filter_eq_cons_iff.1 hTop
  have hOf : top.isOf flow top.holder = true := by simpa [Hold.isOf] using hOwn
  have hOthers : ∀ x ∈ younger, x.isOf flow top.holder = false := by
    intro x hx
    have hFlow : x.flow ≠ flow := by simpa using hYounger x hx
    simp [Hold.isOf, hFlow]
  have hHeld : s.held? flow top.holder = some top := by
    refine List.find?_eq_some_iff_append.2 ⟨hOf, younger, older, hHolds, fun x hx => ?_⟩
    simp [hOthers x hx]
  have hLeft : s.holds.eraseP (·.isOf flow top.holder) = younger ++ older := by
    rw [hHolds, List.eraseP_append_right _ (by simpa using hOthers)]
    exact congrArg (younger ++ ·) (List.eraseP_cons_of_pos hOf)
  have hNone : younger.filter (·.flow == flow) = [] :=
    List.filter_eq_nil_iff.2 fun x hx => by simpa using hYounger x hx
  refine ⟨hHeld, ?_⟩
  rw [move_close hHeld, heldBy, hLeft, List.filter_append, hNone, List.nil_append, hBelow]

end Innermost

/-! ## Other flows -/

section Elsewhere

variable {s : Scene β} (hs : s.Ordered) {flow mover : Nat} (hOther : mover ≠ flow) (m : Move)
include hOther

/-- A flow holds what it has held before another one has moved. -/
theorem heldBy_move_of_ne : (s.move mover m).heldBy flow = s.heldBy flow := by
  cases m with
  | attach holder cx => exact List.filter_cons_of_neg (by simpa using hOther)
  | close holder =>
    cases hHeld : s.held? mover holder with
    | none => rw [move_close_none hHeld]
    | some h =>
      obtain ⟨younger, older, hSplit, -, hErase⟩ := holds_split hHeld
      have hOf := isOf_of_held? hHeld
      simp only [Hold.isOf, Bool.and_eq_true, beq_iff_eq] at hOf
      rw [move_close hHeld, heldBy, heldBy, hErase, hSplit, List.filter_append,
        List.filter_append, List.filter_cons_of_neg (by simpa [hOf.1] using hOther)]
  | _ => rfl

include hs in
theorem slotOf_move_of_ne : (s.move mover m).world.slotOf flow = s.world.slotOf flow := by
  cases m with
  | rebind request =>
    simp [move, World.slotOf, World.hostSlot, World.modifyFlow, World.flow, Assoc.get?_insert,
      hOther]
  | close holder =>
    exact World.slotOf_congr (flows_move hs rfl) (byRequest_move hs mover _) flow
  | _ => rfl

end Elsewhere

/-! ## Guards stay stacked -/

/-- The guards of a flow lie on each other, from the context with which it began. -/
def IsStacked (s : Scene β) (began : Context) (flow : Nat) : Prop :=
  Stacked s.world.guards began (s.world.current flow) (s.heldBy flow)

section Step

variable {s : Scene β} (hs : s.Ordered) {began : Context} {flow mover : Nat}
  (h : s.IsStacked began flow)
include hs h

theorem stacked_attach (holder : Holder) (cx : Context) :
    (s.move flow (.attach holder cx)).IsStacked began flow := by
  have hHeld : (s.move flow (.attach holder cx)).heldBy flow =
      ⟨flow, holder, s.world.supply, s.world.slotOf flow⟩ :: s.heldBy flow :=
    List.filter_cons_of_pos (by simp)
  have hGuards := World.get?_guards_openGuard s.world flow cx
  rw [IsStacked, hHeld]
  refine ⟨s.world.current flow, cx, (hGuards _).trans (if_pos rfl),
    World.current_openGuard s.world flow cx, h.congr fun x hx => ?_⟩
  have hLt := hs.guard_lt x (List.mem_of_mem_filter hx)
  exact (hGuards _).trans (if_neg (Nat.ne_of_gt hLt))

/-- Closing the innermost guard makes current what the guard beneath it is for. -/
theorem stacked_close {top : Hold} {below : List Hold} (hTop : s.heldBy flow = top :: below) :
    (s.move flow (.close top.holder)).IsStacked began flow := by
  obtain ⟨hHeld, hLeft⟩ := heldBy_close hTop
  rw [IsStacked, hTop] at h
  obtain ⟨found, cx, hGuard, hNow, hBelow⟩ := h
  rw [IsStacked, hLeft, move_close hHeld]
  have hCurrent : ((s.world.closeGuard flow top.guard).current flow).same found = true := by
    rw [World.current_closeGuard hGuard]
    split
    · rename_i hFound
      rw [Context.same_symm] at hFound
      exact Context.same_trans hNow hFound
    · exact Context.same_refl found
  refine (hBelow.congr fun x hx => ?_).of_same hCurrent
  have hStill : x ∈ (s.move flow (.close top.holder)).holds := by
    rw [← hLeft] at hx
    exact List.mem_of_mem_filter hx
  rw [move_close hHeld] at hStill
  have hNe := guard_ne_of_mem_eraseP hs hHeld x hStill
  rw [World.get?_guards_closeGuard flow hGuard, if_neg (Ne.symm hNe)]

theorem stacked_elsewhere (hOther : mover ≠ flow) {m : Move}
    (hSlot : s.slotOf? mover m ≠ some (s.world.slotOf flow)) :
    (s.move mover m).IsStacked began flow := by
  have hCurrent : (s.move mover m).world.current flow = s.world.current flow := by
    rw [World.current, slotOf_move_of_ne hs hOther, current_move hs, if_neg hSlot]
    rfl
  have hHeld := heldBy_move_of_ne (s := s) hOther m
  rw [IsStacked, hCurrent, hHeld]
  refine h.congr fun x hx => ?_
  have hStill : x ∈ (s.move mover m).holds := by
    rw [← hHeld] at hx
    exact List.mem_of_mem_filter hx
  rcases get?_guards_move hs mover m x hStill with ⟨-, hSame⟩ | ⟨holder, cx, -, rfl, -⟩
  · exact hSame
  · exact absurd (flow_of_mem_heldBy hx) hOther

/-- A move in turn puts a guard on top of the others of its flow or takes the topmost off. -/
theorem stacked_move {m : Move} (hTurn : s.isInTurn flow mover m = true) :
    (s.move mover m).IsStacked began flow := by
  unfold isInTurn at hTurn
  split at hTurn
  · rename_i hOwn
    subst hOwn
    cases m with
    | read => exact h
    | hostGet => exact h
    | attach holder cx => exact stacked_attach hs h holder cx
    | close holder =>
      cases hTop : s.heldBy mover with
      | nil => simp [hTop] at hTurn
      | cons top below =>
        have hHolder : top.holder = holder := by simpa [hTop] using hTurn
        exact hHolder ▸ stacked_close hs h hTop
    | hostSet cx => cases hTurn
    | rebind request => cases hTurn
  · rename_i hOther
    exact stacked_elsewhere hs h hOther (by simpa using hTurn)

/-- By induction on the run. -/
theorem stacked_after {run : List (Nat × Move)} (hTurns : s.keepsTurns flow run = true) :
    (s.after run).IsStacked began flow := by
  induction run generalizing s with
  | nil => exact h
  | cons step rest ih =>
    obtain ⟨mover, m⟩ := step
    simp only [keepsTurns, Bool.and_eq_true] at hTurns
    exact ih (hs.move mover m) (stacked_move hs h hTurns.1) hTurns.2

end Step

end Scene

/-! ## The first guard that is closed beneath others -/

section Beneath

variable {w : World β} {began : Context} {flow : Nat} {top h : Hold} {others : List Hold}
  (hStacked : Stacked w.guards began (w.current flow) (top :: others))
  {found cx foundTop cxTop : Context}
  (hMadeTop : Assoc.get? w.guards top.guard = some (Guard.of foundTop cxTop))
include hStacked hMadeTop

/-- The context of the innermost guard is current. -/
theorem Stacked.same_top : (w.current flow).same cxTop = true := by
  obtain ⟨found', cx', hGuard, hNow, -⟩ := hStacked
  have hSame := congrArg Guard.attached (Option.some.inj (hMadeTop.symm.trans hGuard))
  rw [Guard.attached_of, Guard.attached_of] at hSame
  rwa [hSame]

variable (hMade : Assoc.get? w.guards h.guard = some (Guard.of found cx))
include hMade

/-- A guard beneath the innermost one is compared with that one when it is closed. -/
theorem Stacked.warned_closeGuard :
    Telemetry.warned w.telemetry (w.closeGuard flow h.guard).telemetry =
      if found.same cx = false ∧ cxTop.same cx = false then [.outOfOrderClose] else [] := by
  have hTop := hStacked.same_top hMadeTop
  have hNow : (w.current flow).same cx = cxTop.same cx := by
    rw [Bool.eq_iff_iff]
    exact ⟨Context.same_trans (Context.same_symm _ cxTop ▸ hTop), Context.same_trans hTop⟩
  rw [World.warned_closeGuard_of hMade, hNow]
  simp

theorem Stacked.warned_of_distinct (hBeneath : h ∈ others)
    (hDistinct : (attachedIn w.guards (top :: others) ++ [began]).Pairwise
      fun a b => a.same b = false) :
    Telemetry.warned w.telemetry (w.closeGuard flow h.guard).telemetry = [.outOfOrderClose] := by
  have hDisplaced : found.same cx = false :=
    hStacked.displaced hDistinct h (List.mem_cons_of_mem top hBeneath) found cx hMade
  have hContexts : attachedIn w.guards (top :: others) = cxTop :: attachedIn w.guards others := by
    simp [attachedIn, hMadeTop]
  have hAttached : cx ∈ attachedIn w.guards others :=
    List.mem_filterMap.2 ⟨h, hBeneath, by simp [hMade]⟩
  rw [hContexts, List.cons_append, List.pairwise_cons] at hDistinct
  have hOther : cxTop.same cx = false := hDistinct.1 cx (List.mem_append_left _ hAttached)
  rw [hStacked.warned_closeGuard hMadeTop hMade, if_pos ⟨hDisplaced, hOther⟩]

end Beneath

/-- A guard was made by the move of a run that stands behind `before`, for a context. -/
structure Hold.MadeAfter (w : World β) (run : List (Nat × Move)) (h : Hold)
    (before : List (Nat × Move)) (cx : Context) : Prop where
  isPart : ∃ between, run = before ++ (h.flow, .attach h.holder cx) :: between
  guard_eq : h.guard = (Scene.after ⟨w, []⟩ before).world.supply

/-- A guard that a flow holds was made by a move of the run, and is still as it was made. -/
theorem Scene.exists_madeAfter (w : World β) (run : List (Nat × Move)) {flow : Nat} {h : Hold}
    (hh : h ∈ (after ⟨w, []⟩ run).heldBy flow) :
    ∃ before cx, h.MadeAfter w run before cx ∧
      Assoc.get? (after ⟨w, []⟩ run).world.guards h.guard =
        some (Guard.of ((after ⟨w, []⟩ before).world.current flow) cx) := by
  obtain ⟨before, cx, between, hRun, hGuard, hMade⟩ :=
    exists_origin w run h (List.mem_of_mem_filter hh)
  rw [flow_of_mem_heldBy hh] at hMade
  exact ⟨before, cx, ⟨⟨between, hRun⟩, hGuard⟩, hMade⟩

/-- **Closing a guard beneath others.** On a flow that has closed no other guard than the innermost
so far, and on whose slot no other flow has moved, a guard that is not the innermost is closed.
There is a warning just if the guard has displaced a context and the innermost guard is for another
instance than its own. If it has displaced a context, this is current again; if not, the context of
the innermost guard stays current. So there always is a warning if the contexts of the open guards,
and the one with which the flow began, are all different instances. -/
theorem closing_beneath (w : World β) (run : List (Nat × Move)) (flow : Nat)
    (hTurns : Scene.keepsTurns ⟨w, []⟩ flow run = true) {top h : Hold} {others : List Hold}
    (hHeld : (Scene.after ⟨w, []⟩ run).heldBy flow = top :: others) (hBeneath : h ∈ others) :
    ∃ before cx beforeTop cxTop,
      h.MadeAfter w run before cx ∧ top.MadeAfter w run beforeTop cxTop ∧
      let found := (Scene.after ⟨w, []⟩ before).world.current flow
      let s := Scene.after ⟨w, []⟩ run
      let closed := s.world.closeGuard flow h.guard
      let warnings := Telemetry.warned s.world.telemetry closed.telemetry
      (s.world.current flow).same cxTop = true ∧
      warnings =
        (if found.same cx = false ∧ cxTop.same cx = false then [.outOfOrderClose] else []) ∧
      closed.current flow = (if found.same cx then s.world.current flow else found) ∧
      ((attachedIn s.world.guards (top :: others) ++ [w.current flow]).Pairwise
          (fun a b => a.same b = false) →
        warnings = [.outOfOrderClose]) := by
  have hStart : (⟨w, []⟩ : Scene β).IsStacked (w.current flow) flow := Context.same_refl _
  have hStacked := Scene.stacked_after (Scene.ordered_start w) hStart hTurns
  obtain ⟨before, cx, hOrigin, hMade⟩ := Scene.exists_madeAfter w run
    (hHeld ▸ List.mem_cons_of_mem top hBeneath)
  obtain ⟨beforeTop, cxTop, hOriginTop, hMadeTop⟩ := Scene.exists_madeAfter w run
    (hHeld ▸ List.mem_cons_self)
  rw [Scene.IsStacked, hHeld] at hStacked
  exact ⟨before, cx, beforeTop, cxTop, hOrigin, hOriginTop, hStacked.same_top hMadeTop,
    hStacked.warned_closeGuard hMadeTop hMade, World.current_closeGuard hMade flow,
    hStacked.warned_of_distinct hMadeTop hMade hBeneath⟩

/-- Three scopes inside each other, of which the innermost is for the same instance as the
outermost. -/
def revisiting : List (Nat × Move) :=
  [(1, .attach (.scope "outer") (marked 7)), (1, .attach (.scope "middle") (marked 8)),
    (1, .attach (.scope "inner") (marked 7))]

theorem made_of_revisiting {before between : List (Nat × Move)} {holder : Holder} {cx : Context}
    (h : revisiting = before ++ (1, .attach holder cx) :: between) :
    (holder = .scope "outer" → before = [] ∧ cx = marked 7) ∧
      (holder = .scope "middle" →
        before = [(1, .attach (.scope "outer") (marked 7))] ∧ cx = marked 8) ∧
      (holder = .scope "inner" → cx = marked 7) := by
  rcases before with _ | ⟨a, _ | ⟨b, _ | ⟨c, rest⟩⟩⟩ <;>
    simp only [revisiting, List.cons_append, List.nil_append, List.cons.injEq, Prod.mk.injEq,
      Move.attach.injEq, true_and, List.nil_eq, List.append_eq_nil_iff, reduceCtorEq,
      and_false] at h
  · obtain ⟨⟨rfl, rfl⟩, -⟩ := h
    simp
  · obtain ⟨rfl, ⟨rfl, rfl⟩, -⟩ := h
    simp
  · obtain ⟨rfl, rfl, ⟨rfl, rfl⟩, -⟩ := h
    simp

/-- Closing the scope between the two is noticed, closing the outermost one is not. -/
theorem closing_beneath_repeated :
    let s : Scene Unit := Scene.after ⟨.initial false .plain, []⟩ revisiting
    let closed := s.world.closeGuard 1
    let warnings := fun guard => Telemetry.warned s.world.telemetry (closed guard).telemetry
    Scene.keepsTurns (⟨.initial false .plain, []⟩ : Scene Unit) 1 revisiting = true ∧
      (s.heldBy 1).map Hold.guard = [4, 3, 2] ∧
      warnings 3 = [.outOfOrderClose] ∧ (closed 3).current 1 = marked 7 ∧
      warnings 2 = [] ∧ (closed 2).current 1 = .root := by
  intro s closed warnings
  have hTurns :
      Scene.keepsTurns (⟨.initial false .plain, []⟩ : Scene Unit) 1 revisiting = true := rfl
  have hHeld : s.heldBy 1 = [⟨1, .scope "inner", 4, .thread 1⟩, ⟨1, .scope "middle", 3, .thread 1⟩,
      ⟨1, .scope "outer", 2, .thread 1⟩] := rfl
  refine ⟨hTurns, congrArg (List.map Hold.guard) hHeld, ?_⟩
  obtain ⟨before, cx, _, cxTop, ⟨⟨_, hRun⟩, -⟩, ⟨⟨_, hRunTop⟩, -⟩, -, hMiddle⟩ :=
    closing_beneath _ _ 1 hTurns hHeld (h := ⟨1, .scope "middle", 3, .thread 1⟩) (by simp)
  obtain ⟨rfl, rfl⟩ := (made_of_revisiting hRun).2.1 rfl
  obtain rfl := (made_of_revisiting hRunTop).2.2 rfl
  obtain ⟨before, cx, _, cxTop, ⟨⟨_, hRun⟩, -⟩, ⟨⟨_, hRunTop⟩, -⟩, -, hOuter⟩ :=
    closing_beneath _ _ 1 hTurns hHeld (h := ⟨1, .scope "outer", 2, .thread 1⟩) (by simp)
  obtain ⟨rfl, rfl⟩ := (made_of_revisiting hRun).1 rfl
  obtain rfl := (made_of_revisiting hRunTop).2.2 rfl
  exact ⟨hMiddle.1, hMiddle.2.1, hOuter.1, hOuter.2.1⟩

end Session

end SpanFlow
