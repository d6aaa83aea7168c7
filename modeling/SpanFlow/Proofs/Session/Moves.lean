import Mathlib.Data.List.Nodup
import SpanFlow.Proofs.Session.Intact

/-!
# Moves of flows

What flows do to current contexts: they look, attach contexts, close guards in any order, and call
work that carries a context. If a host keeps the current contexts, it also reads and writes its
store, and binds flows to other requests. `Move` is one such step, and a run is a list of moves,
each with the flow that makes it, so that every order of the steps of any number of flows is a run.

A session knows its guards by number. A `Scene` is a session together with the guards that its flows
hold: under which name or for which call, and in which slot each was attached.

## Main results

* `Scene.current_move`: a move writes to no other slot than the one it is made on.
* `Scene.Ordered.move`: guards that are held are open, and no two are the same.
* `Scene.get?_guards_move`: a guard that stays open stays as it is.
* `Scene.warnings_eq`: only closing a guard out of turn gives a warning.
-/

namespace SpanFlow

/-! ## Warnings -/

namespace Telemetry

/-- The warnings in the log of `t'` that are not yet in the log of `t`. -/
def warned (t t' : Telemetry) : List Diagnostic :=
  (t'.log.drop t.log.length).filter fun d => d.level = .warn

/-- The log of `t'` is that of `t` with reports behind it, of which these are the warnings. -/
def Warns (warnings : List Diagnostic) (t t' : Telemetry) : Prop :=
  ∃ reports : List Diagnostic, t'.log = t.log ++ reports ∧
    reports.filter (fun d => d.level = .warn) = warnings

section Warns

variable {ws ws' : List Diagnostic} {t t' t'' : Telemetry}

theorem Warns.trans (h : Warns ws t t') (h' : Warns ws' t' t'') : Warns (ws ++ ws') t t'' := by
  obtain ⟨first, hFirst, rfl⟩ := h
  obtain ⟨others, hOthers, rfl⟩ := h'
  exact ⟨first ++ others, by rw [hOthers, hFirst, List.append_assoc], List.filter_append ..⟩

theorem Warns.warned_eq (h : Warns ws t t') : warned t t' = ws := by
  obtain ⟨reports, hLog, hWarnings⟩ := h
  rw [warned, hLog, List.drop_left, hWarnings]

theorem warns_report (t : Telemetry) : Warns [.outOfOrderClose] t (t.report .outOfOrderClose) :=
  ⟨[.outOfOrderClose], rfl, rfl⟩

theorem warned_self (t : Telemetry) : warned t t = [] :=
  Warns.warned_eq ⟨[], (List.append_nil _).symm, rfl⟩

/-- What exporters give rise to is no warning. -/
theorem warns_of_adds (h : Adds IsExporterReport t t') : Warns [] t t' := by
  obtain ⟨reports, hLog, hReports⟩ := h
  refine ⟨reports, hLog, List.filter_eq_nil_iff.2 fun d hd => ?_⟩
  have hReport := hReports d hd
  cases d <;> simp_all [IsExporterReport, Diagnostic.level]

theorem warns_settle (t : Telemetry) (held : List Holding) : Warns [] t (t.settle held) :=
  warns_of_adds (adds_settle t held)

end Warns

end Telemetry

namespace Session

variable {β : Type}

/-- Closing a guard warns just if it is closed out of turn. -/
theorem World.warned_closeGuard {w : World β} {id : Nat} {g : Guard}
    (h : Assoc.get? w.guards id = some g) (flow : Nat) :
    Telemetry.warned w.telemetry (w.closeGuard flow id).telemetry =
      if g.outOfOrder (w.current flow) then [.outOfOrderClose] else [] := by
  refine Telemetry.Warns.warned_eq ?_
  have hSettle : ∀ (held held' : List Holding) (t : Telemetry),
      Telemetry.Warns [] t ((t.settle held).settle held') := fun held held' t =>
    (Telemetry.warns_settle t held).trans (Telemetry.warns_settle _ held')
  unfold closeGuard
  rw [h]
  dsimp only [settle]
  rw [current]
  cases g.outOfOrder (w.slots.current (w.slotOf flow)) with
  | false => exact hSettle _ _ _
  | true => exact (Telemetry.warns_report _).trans (hSettle _ _ _)

section Made

variable {w : World β} {id : Nat} {found cx : Context}
  (h : Assoc.get? w.guards id = some (Guard.of found cx)) (flow : Nat)
include h

/-- What closing a guard makes current, told from what was current when it was made. -/
theorem World.current_closeGuard :
    (w.closeGuard flow id).current flow =
      if found.same cx then w.current flow else found := by
  rw [World.current, World.slotOf_closeGuard flow h, World.slots_closeGuard flow h]
  cases hSame : found.same cx with
  | true =>
    have hNothing : (Guard.of found cx).previous? = none := by simp [Guard.of, hSame]
    rw [Slots.close_of_previous?_eq_none hNothing]
    rfl
  | false =>
    have hPrevious : (Guard.of found cx).previous? = some found := by simp [Guard.of, hSame]
    exact Slots.current_close hPrevious

/-- Closing a guard warns just if the guard has displaced a context and another one is current than
that of the guard. -/
theorem World.warned_closeGuard_of :
    Telemetry.warned w.telemetry (w.closeGuard flow id).telemetry =
      if !found.same cx && !(w.current flow).same cx then [.outOfOrderClose] else [] := by
  rw [World.warned_closeGuard h]
  cases hSame : found.same cx <;> simp [Guard.outOfOrder, Guard.of, hSame]

end Made

/-! ## Moves -/

/-- What a flow holds a guard for: a scope with a name, or a call of work that it is in. -/
inductive Holder where
  | scope (name : String)
  | call
  deriving DecidableEq

/-- A step of a flow that has to do with current contexts. A call of work is an attaching at its
beginning and a closing at its end, also if the work fails. -/
inductive Move where
  /-- Looks at the current context. -/
  | read
  /-- Attaches a context. -/
  | attach (holder : Holder) (cx : Context)
  /-- Closes the youngest guard that the flow holds for this. -/
  | close (holder : Holder)
  /-- The host looks into its store. -/
  | hostGet
  /-- The host writes to its store. -/
  | hostSet (cx : Context)
  /-- The host binds the flow to a request, or to none with the number zero. -/
  | rebind (request : Nat)

/-- A guard that a flow holds: what for, its number, and the slot in which it was attached. -/
structure Hold where
  flow : Nat
  holder : Holder
  guard : Nat
  home : Slot

/-- Whether this is a guard that a flow holds for a certain thing. -/
def Hold.isOf (h : Hold) (flow : Nat) (holder : Holder) : Bool :=
  h.flow == flow && h.holder == holder

/-- A session and the guards that its flows hold, the youngest first. -/
structure Scene (β : Type) where
  world : World β
  holds : List Hold

namespace Scene

/-- The youngest guard that a flow holds for a certain thing. -/
def held? (s : Scene β) (flow : Nat) (holder : Holder) : Option Hold :=
  s.holds.find? (·.isOf flow holder)

/-- The guard that a flow closes when it closes what it holds for a certain thing. -/
def guard? (s : Scene β) (flow : Nat) (holder : Holder) : Option Guard :=
  (s.held? flow holder).bind fun h => Assoc.get? s.world.guards h.guard

/-- Makes a move on a flow. Who closes what it does not hold closes nothing. -/
def move (s : Scene β) (flow : Nat) : Move → Scene β
  | .read | .hostGet => s
  | .attach holder cx =>
    let (id, w) := s.world.openGuard flow cx
    ⟨w, ⟨flow, holder, id, s.world.slotOf flow⟩ :: s.holds⟩
  | .close holder =>
    match s.held? flow holder with
    | none => s
    | some h => ⟨s.world.closeGuard flow h.guard, s.holds.eraseP (·.isOf flow holder)⟩
  | .hostSet cx =>
    let slots := s.world.slots.replace (s.world.hostSlot flow) cx
    ⟨{ s.world with slots := slots }.settle, s.holds⟩
  | .rebind request =>
    ⟨s.world.modifyFlow flow fun f => { f with request := request }, s.holds⟩

/-- Makes moves, one after another. -/
def after (s : Scene β) (run : List (Nat × Move)) : Scene β :=
  run.foldl (fun s step => s.move step.1 step.2) s

/-- The slot that a move is made on. Binding a flow is no move on a slot. -/
def slotOf? (s : Scene β) (flow : Nat) : Move → Option Slot
  | .read | .attach _ _ | .close _ => some (s.world.slotOf flow)
  | .hostGet | .hostSet _ => some (s.world.hostSlot flow)
  | .rebind _ => none

/-- The context that a move writes to its slot. Attaching the context that is current writes
nothing, nor does closing the guard of such an attaching. -/
def written? (s : Scene β) (flow : Nat) : Move → Option Context
  | .attach _ cx => if (s.world.current flow).same cx then none else some cx
  | .close holder => (s.guard? flow holder).bind Guard.previous?
  | .hostSet cx => some cx
  | _ => none

/-- The warnings given during a move. -/
def warnings (s : Scene β) (flow : Nat) (m : Move) : List Diagnostic :=
  Telemetry.warned s.world.telemetry (s.move flow m).world.telemetry

/-! ## Guards that are held -/

/-- Guards that are held are open and have numbers from the supply, no two the same. -/
structure Ordered (s : Scene β) : Prop where
  guard_lt : ∀ h ∈ s.holds, h.guard < s.world.supply
  isOpen : ∀ h ∈ s.holds, ∃ g, Assoc.get? s.world.guards h.guard = some g
  nodup_guards : (s.holds.map Hold.guard).Nodup

theorem ordered_start (w : World β) : Ordered ⟨w, []⟩ := ⟨by simp, by simp, by simp⟩

section Held

variable {s : Scene β} {flow : Nat} {holder : Holder} {h : Hold}

theorem mem_of_held? (hHeld : s.held? flow holder = some h) : h ∈ s.holds :=
  List.mem_of_find?_eq_some hHeld

theorem isOf_of_held? (hHeld : s.held? flow holder = some h) : h.isOf flow holder = true := by
  simpa using List.find?_some hHeld

/-- The youngest guard of its kind stands behind guards of other kinds, and is what is taken out. -/
theorem holds_split (hHeld : s.held? flow holder = some h) :
    ∃ younger older, s.holds = younger ++ h :: older ∧
      (∀ x ∈ younger, x.isOf flow holder = false) ∧
      s.holds.eraseP (·.isOf flow holder) = younger ++ older := by
  obtain ⟨hOf, younger, older, hSplit, hYounger⟩ := List.find?_eq_some_iff_append.1 hHeld
  refine ⟨younger, older, hSplit, by simpa using hYounger, ?_⟩
  rw [hSplit, List.eraseP_append_right _ (by simpa using hYounger)]
  exact congrArg (younger ++ ·) (List.eraseP_cons_of_pos hOf)

/-- The guards that are left have other numbers than the one that is taken. -/
theorem guard_ne_of_mem_eraseP (hs : s.Ordered) (hHeld : s.held? flow holder = some h) :
    ∀ x ∈ s.holds.eraseP (·.isOf flow holder), x.guard ≠ h.guard := by
  obtain ⟨younger, older, hSplit, -, hErase⟩ := holds_split hHeld
  have hNodup := hs.nodup_guards
  rw [hSplit, List.map_append, List.map_cons, List.nodup_middle, List.nodup_cons] at hNodup
  intro x hx hSame
  rw [hErase] at hx
  refine hNodup.1 ?_
  rw [← List.map_append, ← hSame]
  exact List.mem_map_of_mem hx

/-- Closing a guard that is held. -/
theorem move_close (hHeld : s.held? flow holder = some h) :
    s.move flow (.close holder) =
      ⟨s.world.closeGuard flow h.guard, s.holds.eraseP (·.isOf flow holder)⟩ := by
  simp only [move, hHeld]

/-- Closing what is not held. -/
theorem move_close_none (hHeld : s.held? flow holder = none) :
    s.move flow (.close holder) = s := by
  simp only [move, hHeld]

end Held

/-- The context of a slot after a move is the one that the move has written there, if it is a move
on this slot and has written any, and else the one from before. -/
theorem current_move {s : Scene β} (hs : s.Ordered) (flow : Nat) (m : Move) (slot : Slot) :
    (s.move flow m).world.slots.current slot =
      if s.slotOf? flow m = some slot
      then (s.written? flow m).getD (s.world.slots.current slot)
      else s.world.slots.current slot := by
  have hReplace : ∀ (here : Slot) (cx : Context),
      (s.world.slots.replace here cx).current slot =
        if some here = some slot then cx else s.world.slots.current slot := by
    intro here cx
    by_cases hSlot : here = slot
    · rw [hSlot, if_pos rfl, Slots.current_replace]
    · rw [if_neg (by simpa using hSlot), Slots.current_replace_of_ne _ _ hSlot]
  cases m with
  | read => simp [move, written?]
  | hostGet => simp [move, written?]
  | rebind request => simp [move, slotOf?, World.modifyFlow]
  | hostSet cx => exact hReplace _ cx
  | attach holder cx =>
    show (s.world.slots.attach (s.world.slotOf flow) cx).current slot = _
    simp only [slotOf?, written?, World.current]
    by_cases hSame : (s.world.slots.current (s.world.slotOf flow)).same cx = true
    · simp [Slots.attach, Guard.of, hSame]
    · simp only [Slots.attach, Guard.of, hSame, if_false, Bool.false_eq_true, Option.getD_some]
      exact hReplace _ cx
  | close holder =>
    cases hHeld : s.held? flow holder with
    | none => simp [move_close_none hHeld, written?, guard?, hHeld]
    | some h =>
      obtain ⟨g, hg⟩ := hs.isOpen h (mem_of_held? hHeld)
      rw [move_close hHeld, World.slots_closeGuard flow hg]
      simp only [slotOf?, written?, guard?, hHeld, hg, Option.bind_some]
      cases hPrevious : g.previous? with
      | none => simp [Slots.close_of_previous?_eq_none hPrevious]
      | some previous =>
        simp only [Slots.close, hPrevious, Option.getD_some]
        exact hReplace _ previous

/-- Only closing a guard out of turn gives a warning. -/
theorem warnings_eq {s : Scene β} (hs : s.Ordered) (flow : Nat) (m : Move) :
    s.warnings flow m =
      match m with
      | .close holder =>
        if (s.guard? flow holder).any (·.outOfOrder (s.world.current flow))
        then [.outOfOrderClose] else []
      | _ => [] := by
  cases m with
  | read => exact Telemetry.warned_self _
  | hostGet => exact Telemetry.warned_self _
  | attach holder cx => exact Telemetry.warned_self _
  | rebind request => exact Telemetry.warned_self _
  | hostSet cx => exact (Telemetry.warns_settle _ _).warned_eq
  | close holder =>
    rw [warnings]
    cases hHeld : s.held? flow holder with
    | none =>
      rw [move_close_none hHeld, Telemetry.warned_self]
      simp [guard?, hHeld]
    | some h =>
      obtain ⟨g, hg⟩ := hs.isOpen h (mem_of_held? hHeld)
      rw [move_close hHeld, World.warned_closeGuard hg]
      simp [guard?, hHeld, hg]

/-- A guard that is held after a move was held before it and is as it was, or has just been made. -/
theorem get?_guards_move {s : Scene β} (hs : s.Ordered) (flow : Nat) (m : Move) :
    ∀ h ∈ (s.move flow m).holds,
      (h ∈ s.holds ∧
        Assoc.get? (s.move flow m).world.guards h.guard = Assoc.get? s.world.guards h.guard) ∨
      ∃ holder cx, m = .attach holder cx ∧
        h = ⟨flow, holder, s.world.supply, s.world.slotOf flow⟩ ∧
        Assoc.get? (s.move flow m).world.guards h.guard =
          some (Guard.of (s.world.current flow) cx) := by
  intro h hh
  cases m with
  | read => exact .inl ⟨hh, rfl⟩
  | hostGet => exact .inl ⟨hh, rfl⟩
  | hostSet cx => exact .inl ⟨hh, rfl⟩
  | rebind request => exact .inl ⟨hh, rfl⟩
  | attach holder cx =>
    have hGuard := World.get?_guards_openGuard s.world flow cx h.guard
    rcases List.mem_cons.1 hh with rfl | hOld
    · exact .inr ⟨holder, cx, rfl, rfl, hGuard.trans (if_pos rfl)⟩
    · exact .inl ⟨hOld, hGuard.trans (if_neg (Nat.ne_of_gt (hs.guard_lt h hOld)))⟩
  | close holder =>
    cases hHeld : s.held? flow holder with
    | none =>
      rw [move_close_none hHeld] at hh ⊢
      exact .inl ⟨hh, rfl⟩
    | some x =>
      obtain ⟨g, hg⟩ := hs.isOpen x (mem_of_held? hHeld)
      rw [move_close hHeld] at hh ⊢
      have hNe := guard_ne_of_mem_eraseP hs hHeld h hh
      refine .inl ⟨List.mem_of_mem_eraseP hh, ?_⟩
      rw [World.get?_guards_closeGuard flow hg, if_neg (Ne.symm hNe)]

theorem supply_le_move {s : Scene β} (hs : s.Ordered) (flow : Nat) (m : Move) :
    s.world.supply ≤ (s.move flow m).world.supply := by
  cases m with
  | attach holder cx => exact Nat.le_succ _
  | close holder =>
    cases hHeld : s.held? flow holder with
    | none => exact Nat.le_of_eq (congrArg (·.world.supply) (move_close_none hHeld).symm)
    | some h =>
      obtain ⟨g, hg⟩ := hs.isOpen h (mem_of_held? hHeld)
      rw [move_close hHeld]
      exact Nat.le_of_eq (World.supply_closeGuard flow hg).symm
  | _ => exact Nat.le_refl _

theorem Ordered.move {s : Scene β} (hs : s.Ordered) (flow : Nat) (m : Move) :
    (s.move flow m).Ordered where
  guard_lt h hh := by
    rcases get?_guards_move hs flow m h hh with ⟨hOld, -⟩ | ⟨holder, cx, rfl, rfl, -⟩
    · exact Nat.lt_of_lt_of_le (hs.guard_lt h hOld) (supply_le_move hs flow m)
    · exact Nat.lt_succ_self _
  isOpen h hh := by
    rcases get?_guards_move hs flow m h hh with ⟨hOld, hSame⟩ | ⟨holder, cx, -, -, hNew⟩
    · rw [hSame]
      exact hs.isOpen h hOld
    · exact ⟨_, hNew⟩
  nodup_guards := by
    cases m with
    | attach holder cx =>
      refine List.nodup_cons.2 ⟨fun hMem => ?_, hs.nodup_guards⟩
      obtain ⟨h, hh, hGuard⟩ := List.mem_map.1 hMem
      exact absurd (hs.guard_lt h hh) (by rw [hGuard]; exact Nat.lt_irrefl _)
    | close holder =>
      cases hHeld : s.held? flow holder with
      | none =>
        rw [move_close_none hHeld]
        exact hs.nodup_guards
      | some h =>
        rw [move_close hHeld]
        exact hs.nodup_guards.sublist (List.eraseP_sublist.map _)
    | _ => exact hs.nodup_guards

theorem after_append (s : Scene β) (run others : List (Nat × Move)) :
    s.after (run ++ others) = (s.after run).after others := List.foldl_append ..

theorem Ordered.after {s : Scene β} (hs : s.Ordered) (run : List (Nat × Move)) :
    (s.after run).Ordered := by
  induction run generalizing s with
  | nil => exact hs
  | cons step rest ih => exact ih (hs.move step.1 step.2)

end Scene

end Session

end SpanFlow
