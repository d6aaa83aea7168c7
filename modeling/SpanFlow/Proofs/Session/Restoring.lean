import SpanFlow.Proofs.Recording.Log
import SpanFlow.Session.World

/-!
# Restoring what was current

Between the opening of a guard and its closing all kinds of work can be done. `Restores` says what
such work must leave as it found it: the current context of every slot, the guards that were open,
and the binding of flows to slots. It must not have closed a guard out of turn either.

The bracket lemma is that work between the opening and the closing of one guard may be put into the
bracket: if the work restores, then so does the bracket with the work in it. It covers both ways of
attaching. A guard that displaced a context puts it back, and finds its own context current when it
does so. A guard of a context that was current already has displaced nothing and does nothing.

## Main results

* `Slots.current_close_attach`: closing a guard undoes its attaching, in every slot.
* `Restores.refl`, `Restores.trans`: restoring work can be done in sequence.
* `restores_bracket`: restoring work can be put between the opening and the closing of a guard.
-/

namespace SpanFlow

/-! ## Attaching and closing on the store -/

/-- Closing puts a slot back that is as attaching left it. -/
theorem Slots.current_close_attach_at {slots slots' : Slots} {slot other : Slot} {cx : Context}
    (h : slots'.current other = (slots.attach slot cx).current other) :
    (slots'.close slot (Guard.of (slots.current slot) cx)).current other =
      slots.current other := by
  by_cases hSame : (slots.current slot).same cx = true
  · have hAttach : slots.attach slot cx = slots := by simp [Slots.attach, Guard.of, hSame]
    rw [Slots.close_of_previous?_eq_none (by simp [Guard.of, hSame]), h, hAttach]
  · have hAttach : slots.attach slot cx = slots.replace slot cx := by
      simp [Slots.attach, Guard.of, hSame]
    have hClose : slots'.close slot (Guard.of (slots.current slot) cx) =
        slots'.replace slot (slots.current slot) := by simp [Slots.close, Guard.of, hSame]
    rw [hClose]
    by_cases hSlot : slot = other
    · rw [← hSlot, Slots.current_replace]
    · rw [Slots.current_replace_of_ne _ _ hSlot, h, hAttach, Slots.current_replace_of_ne _ _ hSlot]

section Store

variable {slots slots' : Slots} {slot : Slot} {cx : Context}
  (h : ∀ other, slots'.current other = (slots.attach slot cx).current other)
include h

/-- Closing puts every slot back, if the slots are as attaching left them. -/
theorem Slots.current_close_attach (other : Slot) :
    (slots'.close slot (Guard.of (slots.current slot) cx)).current other =
      slots.current other := Slots.current_close_attach_at (h other)

/-- A guard that is closed while the slot is as attaching left it is closed in its turn. -/
theorem Guard.outOfOrder_of_attach :
    (Guard.of (slots.current slot) cx).outOfOrder (slots'.current slot) = false := by
  rw [h]
  by_cases hSame : (slots.current slot).same cx = true <;>
    simp [Slots.attach, Guard.of, Guard.outOfOrder, hSame]

end Store

namespace Session

variable {β : Type}

namespace World

/-! ## The operations on guards -/

theorem slotOf_congr {w w' : World β} (hFlows : w'.flows = w.flows)
    (hByRequest : w'.byRequest = w.byRequest) (flow : Nat) : w'.slotOf flow = w.slotOf flow := by
  simp only [slotOf, hostSlot, World.flow, hFlows, hByRequest]

@[simp] theorem openGuard_fst (w : World β) (flow : Nat) (cx : Context) :
    (w.openGuard flow cx).1 = w.supply := rfl

@[simp] theorem supply_openGuard (w : World β) (flow : Nat) (cx : Context) :
    (w.openGuard flow cx).2.supply = w.supply + 1 := rfl

@[simp] theorem telemetry_openGuard (w : World β) (flow : Nat) (cx : Context) :
    (w.openGuard flow cx).2.telemetry = w.telemetry := rfl

@[simp] theorem slots_openGuard (w : World β) (flow : Nat) (cx : Context) :
    (w.openGuard flow cx).2.slots = w.slots.attach (w.slotOf flow) cx := rfl

@[simp] theorem slotOf_openGuard (w : World β) (flow : Nat) (cx : Context) (other : Nat) :
    (w.openGuard flow cx).2.slotOf other = w.slotOf other := slotOf_congr rfl rfl other

theorem get?_guards_openGuard (w : World β) (flow : Nat) (cx : Context) (id : Nat) :
    Assoc.get? (w.openGuard flow cx).2.guards id =
      if w.supply = id then some (Guard.of (w.current flow) cx) else Assoc.get? w.guards id :=
  Assoc.get?_insert _ _ _ _

/-- What is attached is current, whether it displaced anything or not. -/
theorem current_openGuard (w : World β) (flow : Nat) (cx : Context) :
    ((w.openGuard flow cx).2.current flow).same cx = true := by
  rw [current, slotOf_openGuard, slots_openGuard]
  exact Slots.current_attach _ _ _

/-- A guard that is not there has nothing to put back. -/
theorem closeGuard_of_none {w : World β} {id : Nat}
    (h : Assoc.get? w.guards id = none) (flow : Nat) :
    w.closeGuard flow id = w := by
  unfold closeGuard
  rw [h]

section Close

variable {w : World β} (flow : Nat) {id : Nat} {g : Guard} (h : Assoc.get? w.guards id = some g)
include h

/-- What closing a guard does to a session, but for what it tells exporters and the log. -/
theorem closeGuard_eq : ∃ t, w.closeGuard flow id = { w with
    telemetry := t
    slots := w.slots.close (w.slotOf flow) g
    guards := Assoc.erase (Assoc.insert w.guards id ⟨none, g.attached⟩) id } := by
  unfold closeGuard
  rw [h]
  dsimp only [settle]
  split <;> exact ⟨_, rfl⟩

theorem supply_closeGuard : (w.closeGuard flow id).supply = w.supply := by
  obtain ⟨t, hEq⟩ := closeGuard_eq flow h
  rw [hEq]

theorem slots_closeGuard : (w.closeGuard flow id).slots = w.slots.close (w.slotOf flow) g := by
  obtain ⟨t, hEq⟩ := closeGuard_eq flow h
  rw [hEq]

theorem flows_closeGuard : (w.closeGuard flow id).flows = w.flows := by
  obtain ⟨t, hEq⟩ := closeGuard_eq flow h
  rw [hEq]

theorem byRequest_closeGuard : (w.closeGuard flow id).byRequest = w.byRequest := by
  obtain ⟨t, hEq⟩ := closeGuard_eq flow h
  rw [hEq]

theorem slotOf_closeGuard (other : Nat) : (w.closeGuard flow id).slotOf other = w.slotOf other := by
  obtain ⟨t, hEq⟩ := closeGuard_eq flow h
  rw [hEq]
  exact slotOf_congr rfl rfl other

theorem get?_guards_closeGuard (other : Nat) :
    Assoc.get? (w.closeGuard flow id).guards other =
      if id = other then none else Assoc.get? w.guards other := by
  obtain ⟨t, hEq⟩ := closeGuard_eq flow h
  rw [hEq, Assoc.get?_erase, Assoc.get?_insert]
  by_cases hSame : id = other <;> simp [hSame]

/-- A guard that is closed in its turn is not reported. -/
theorem adds_closeGuard (hTurn : g.outOfOrder (w.current flow) = false) :
    Telemetry.Adds (· ≠ .outOfOrderClose) w.telemetry (w.closeGuard flow id).telemetry := by
  unfold closeGuard
  rw [h]
  dsimp only [settle]
  rw [current] at hTurn
  rw [hTurn]
  exact (Telemetry.adds_settle_ne_outOfOrderClose _ _).trans
    (Telemetry.adds_settle_ne_outOfOrderClose _ _)

end Close

end World

/-! ## Restoring work -/

/-- Work that led from `w` to `w'` has left the current contexts, the guards that were open and the
slots of all flows as they were, and has closed no guard out of turn. -/
structure Restores (w w' : World β) : Prop where
  supply_le : w.supply ≤ w'.supply
  guard_eq : ∀ id < w.supply, Assoc.get? w'.guards id = Assoc.get? w.guards id
  slotOf_eq : ∀ flow, w'.slotOf flow = w.slotOf flow
  slot_eq : ∀ slot, w'.slots.current slot = w.slots.current slot
  adds : Telemetry.Adds (· ≠ .outOfOrderClose) w.telemetry w'.telemetry

namespace Restores

variable {w w' w'' : World β}

theorem refl : Restores w w where
  supply_le := Nat.le_refl _
  guard_eq _ _ := rfl
  slotOf_eq _ := rfl
  slot_eq _ := rfl
  adds := .refl

theorem trans (h : Restores w w') (h' : Restores w' w'') : Restores w w'' where
  supply_le := Nat.le_trans h.supply_le h'.supply_le
  guard_eq id hid :=
    (h'.guard_eq id (Nat.lt_of_lt_of_le hid h.supply_le)).trans (h.guard_eq id hid)
  slotOf_eq flow := (h'.slotOf_eq flow).trans (h.slotOf_eq flow)
  slot_eq slot := (h'.slot_eq slot).trans (h.slot_eq slot)
  adds := h.adds.trans h'.adds

/-- The current context of every flow is the one from before. -/
theorem current_eq (h : Restores w w') (flow : Nat) : w'.current flow = w.current flow := by
  rw [World.current, World.current, h.slotOf_eq, h.slot_eq]

theorem same_current (h : Restores w w') {flow : Nat} {cx : Context}
    (hSame : (w.current flow).same cx = true) : (w'.current flow).same cx = true := by
  rw [h.current_eq]
  exact hSame

end Restores

/-- **The bracket lemma.** Restoring work between the opening and the closing of a guard makes a
restoring whole. -/
theorem restores_bracket {w w' : World β} {flow : Nat} {cx : Context}
    (h : Restores (w.openGuard flow cx).2 w') :
    Restores w (w'.closeGuard flow (w.openGuard flow cx).1) := by
  have hGuard : Assoc.get? w'.guards w.supply = some (Guard.of (w.current flow) cx) := by
    rw [h.guard_eq w.supply (by simp), World.get?_guards_openGuard, if_pos rfl]
  have hSlot : w'.slotOf flow = w.slotOf flow := by
    rw [h.slotOf_eq, World.slotOf_openGuard]
  have hCurrent : ∀ slot, w'.slots.current slot =
      (w.slots.attach (w.slotOf flow) cx).current slot := h.slot_eq
  rw [World.openGuard_fst]
  constructor
  · have := h.supply_le
    rw [World.supply_openGuard] at this
    rw [World.supply_closeGuard flow hGuard]
    omega
  · intro id hid
    have hLt : id < (w.openGuard flow cx).2.supply := by
      rw [World.supply_openGuard]
      omega
    have hNe : ¬ w.supply = id := by omega
    rw [World.get?_guards_closeGuard flow hGuard, if_neg hNe, h.guard_eq id hLt,
      World.get?_guards_openGuard, if_neg hNe]
  · intro other
    rw [World.slotOf_closeGuard flow hGuard, h.slotOf_eq, World.slotOf_openGuard]
  · intro slot
    rw [World.slots_closeGuard flow hGuard, hSlot]
    exact Slots.current_close_attach hCurrent slot
  · have hTurn : (Guard.of (w.current flow) cx).outOfOrder (w'.current flow) = false := by
      rw [World.current, World.current, hSlot]
      exact Guard.outOfOrder_of_attach hCurrent
    have hWork := h.adds
    rw [World.telemetry_openGuard] at hWork
    exact hWork.trans (World.adds_closeGuard flow hGuard hTurn)

end Session

end SpanFlow
