import SpanFlow.Proofs.Session.Restoring

/-!
# Leaving other flows intact

Numbers for flows and guards come from one supply, so what a session had at some time is what is
numbered below the supply of that time. `Intact bound` says that what is numbered below `bound` is
as it was: the guards, the named guards of the flows, the slots of the flows and their current
contexts.

There are two ways for a flow to leave others intact. A flow whose guards are opened and closed in
turn leaves even itself intact, which is the bracket lemma once more. A flow that was begun later
may open and close its own guards as it likes: it stands apart, because no earlier flow shares its
slot.

## Main results

* `intact_bracket`: what leaves all intact can be put between the opening and the closing of a
  guard.
* `Apart.openGuard`, `Apart.closeGuard`: a flow that stands apart opens and closes its own guards.
* `apart_beginFlow`, `intact_endFlow`: a flow begins apart from all others, and ends so.
-/

namespace SpanFlow

namespace Slots

variable {slot other : Slot}

theorem current_attach_of_ne (slots : Slots) (cx : Context) (h : slot ≠ other) :
    (slots.attach slot cx).current other = slots.current other := by
  unfold attach
  split
  · rfl
  · exact current_replace_of_ne _ _ h

theorem current_close_of_ne (slots : Slots) (g : Guard) (h : slot ≠ other) :
    (slots.close slot g).current other = slots.current other := by
  unfold close
  split
  · rfl
  · exact current_replace_of_ne _ _ h

end Slots

namespace Session

variable {β : Type}

/-- What is numbered below `bound` is the same in `w'` as in `w`. -/
structure Intact (bound : Nat) (w w' : World β) : Prop where
  supply_le : w.supply ≤ w'.supply
  guard_eq : ∀ id < bound, Assoc.get? w'.guards id = Assoc.get? w.guards id
  scopes_eq : ∀ flow < bound, (w'.flow flow).scopes = (w.flow flow).scopes
  slotOf_eq : ∀ flow < bound, w'.slotOf flow = w.slotOf flow
  current_eq : ∀ flow < bound, w'.current flow = w.current flow

/-- What a session has to do with scopes. -/
structure Scoping where
  byRequest : Bool
  slots : Slots
  guards : Assoc Nat Guard
  flows : Assoc Nat Flow

namespace World

/-- The scopes of a session. -/
def scoping (w : World β) : Scoping := ⟨w.byRequest, w.slots, w.guards, w.flows⟩

theorem flow_modifyFlow (w : World β) (id : Nat) (f : Flow → Flow) (other : Nat) :
    (w.modifyFlow id f).flow other = if id = other then f (w.flow id) else w.flow other := by
  unfold modifyFlow flow
  rw [Assoc.get?_insert]
  by_cases h : id = other <;> simp [h]

/-- A flow keeps its slot as long as it keeps its request. -/
theorem slotOf_modifyFlow {f : Flow → Flow} (hf : ∀ x, (f x).request = x.request) (w : World β)
    (id other : Nat) : (w.modifyFlow id f).slotOf other = w.slotOf other := by
  have hRequest : ((w.modifyFlow id f).flow other).request = (w.flow other).request := by
    rw [flow_modifyFlow]
    by_cases h : id = other
    · rw [if_pos h, hf, h]
    · rw [if_neg h]
  simp only [slotOf, hostSlot, hRequest]
  rfl

/-- A flow has a slot that no other flow can have. -/
def OwnSlot (w : World β) (flow : Nat) : Prop :=
  w.slotOf flow = .thread flow ∨ w.slotOf flow = .idle flow

theorem slotOf_cases (w : World β) (flow : Nat) :
    w.OwnSlot flow ∨ ∃ id, w.slotOf flow = .request id := by
  unfold OwnSlot slotOf hostSlot
  split
  · split
    · exact .inl (.inr rfl)
    · exact .inr ⟨_, rfl⟩
  · exact .inl (.inl rfl)

theorem OwnSlot.slotOf_ne {w : World β} {flow other : Nat} (h : w.OwnSlot flow)
    (hNe : other ≠ flow) : w.slotOf flow ≠ w.slotOf other := by
  intro hEq
  rcases h with h | h <;> rcases w.slotOf_cases other with (hOther | hOther) | ⟨id, hOther⟩ <;>
    rw [h, hOther] at hEq <;> cases hEq <;> exact hNe rfl

end World

namespace Intact

variable {bound : Nat} {w w' w'' : World β}

theorem refl : Intact bound w w where
  supply_le := Nat.le_refl _
  guard_eq _ _ := rfl
  scopes_eq _ _ := rfl
  slotOf_eq _ _ := rfl
  current_eq _ _ := rfl

theorem trans (h : Intact bound w w') (h' : Intact bound w' w'') : Intact bound w w'' where
  supply_le := Nat.le_trans h.supply_le h'.supply_le
  guard_eq id hid := (h'.guard_eq id hid).trans (h.guard_eq id hid)
  scopes_eq flow hFlow := (h'.scopes_eq flow hFlow).trans (h.scopes_eq flow hFlow)
  slotOf_eq flow hFlow := (h'.slotOf_eq flow hFlow).trans (h.slotOf_eq flow hFlow)
  current_eq flow hFlow := (h'.current_eq flow hFlow).trans (h.current_eq flow hFlow)

theorem mono {lower : Nat} (h : Intact bound w w') (hLe : lower ≤ bound) : Intact lower w w' where
  supply_le := h.supply_le
  guard_eq id hid := h.guard_eq id (Nat.lt_of_lt_of_le hid hLe)
  scopes_eq flow hFlow := h.scopes_eq flow (Nat.lt_of_lt_of_le hFlow hLe)
  slotOf_eq flow hFlow := h.slotOf_eq flow (Nat.lt_of_lt_of_le hFlow hLe)
  current_eq flow hFlow := h.current_eq flow (Nat.lt_of_lt_of_le hFlow hLe)

/-- What has nothing to do with scopes leaves everything intact. -/
theorem of_scoping_eq (hSupply : w.supply ≤ w'.supply) (h : w'.scoping = w.scoping) :
    Intact bound w w' := by
  have hByRequest : w'.byRequest = w.byRequest := congrArg Scoping.byRequest h
  have hSlots : w'.slots = w.slots := congrArg Scoping.slots h
  have hGuards : w'.guards = w.guards := congrArg Scoping.guards h
  have hFlows : w'.flows = w.flows := congrArg Scoping.flows h
  constructor
  · exact hSupply
  · intro id _
    rw [hGuards]
  · intro flow _
    rw [World.flow, World.flow, hFlows]
  · intro flow _
    exact World.slotOf_congr hFlows hByRequest flow
  · intro flow _
    rw [World.current, World.current, World.slotOf_congr hFlows hByRequest, hSlots]

end Intact

/-! ## A flow whose guards are closed in turn -/

/-- A flow of a session: it and its named guards have their numbers from the supply. -/
structure World.HasFlow (w : World β) (flow : Nat) : Prop where
  lt_supply : flow < w.supply
  guard_lt : ∀ s ∈ (w.flow flow).scopes, s.guard < w.supply

namespace World.HasFlow

variable {w w' : World β} {flow : Nat}

theorem intact (h : w.HasFlow flow) (hIntact : Intact w.supply w w') : w'.HasFlow flow where
  lt_supply := Nat.lt_of_lt_of_le h.lt_supply hIntact.supply_le
  guard_lt s hs := by
    rw [hIntact.scopes_eq flow h.lt_supply] at hs
    exact Nat.lt_of_lt_of_le (h.guard_lt s hs) hIntact.supply_le

theorem openGuard (h : w.HasFlow flow) (cx : Context) : (w.openGuard flow cx).2.HasFlow flow where
  lt_supply := Nat.lt_succ_of_lt h.lt_supply
  guard_lt s hs := Nat.lt_succ_of_lt (h.guard_lt s hs)

end World.HasFlow

/-- **The bracket lemma**, for one flow among others. -/
theorem intact_bracket {w w' : World β} {flow : Nat} {cx : Context} (hFlow : flow < w.supply)
    (h : Intact (w.openGuard flow cx).2.supply (w.openGuard flow cx).2 w') :
    Intact w.supply w (w'.closeGuard flow (w.openGuard flow cx).1) := by
  rw [World.supply_openGuard] at h
  have hGuard : Assoc.get? w'.guards w.supply = some (Guard.of (w.current flow) cx) := by
    rw [h.guard_eq w.supply (Nat.lt_succ_self _), World.get?_guards_openGuard, if_pos rfl]
  have hSlot : ∀ other < w.supply, w'.slotOf other = w.slotOf other := by
    intro other hOther
    rw [h.slotOf_eq other (Nat.lt_succ_of_lt hOther), World.slotOf_openGuard]
  have hCurrent : ∀ other < w.supply, w'.slots.current (w.slotOf other) =
      (w.slots.attach (w.slotOf flow) cx).current (w.slotOf other) := by
    intro other hOther
    have hEq := h.current_eq other (Nat.lt_succ_of_lt hOther)
    rw [World.current, World.current, hSlot other hOther, World.slotOf_openGuard,
      World.slots_openGuard] at hEq
    exact hEq
  obtain ⟨t, hClosed⟩ := World.closeGuard_eq flow hGuard
  rw [World.openGuard_fst]
  constructor
  · rw [World.supply_closeGuard flow hGuard]
    exact Nat.le_trans (Nat.le_succ _) h.supply_le
  · intro id hid
    have hNe : ¬ w.supply = id := Nat.ne_of_gt hid
    rw [World.get?_guards_closeGuard flow hGuard, if_neg hNe, h.guard_eq id (Nat.lt_succ_of_lt hid),
      World.get?_guards_openGuard, if_neg hNe]
  · intro other hOther
    have hEq := h.scopes_eq other (Nat.lt_succ_of_lt hOther)
    rw [hClosed]
    exact hEq
  · intro other hOther
    rw [World.slotOf_closeGuard flow hGuard, hSlot other hOther]
  · intro other hOther
    rw [World.current, World.slotOf_closeGuard flow hGuard, World.slots_closeGuard flow hGuard,
      hSlot flow hFlow, hSlot other hOther, World.current]
    exact Slots.current_close_attach_at (hCurrent other hOther)

/-! ## A flow that stands apart -/

/-- A flow that was begun at or after `bound`: its slot is its own, and so are its guards. -/
structure Apart (bound : Nat) (flow : Nat) (w : World β) : Prop where
  bound_le : bound ≤ flow
  lt_supply : flow < w.supply
  ownSlot : w.OwnSlot flow
  le_guard : ∀ s ∈ (w.flow flow).scopes, bound ≤ s.guard

namespace Apart

variable {bound flow : Nat} {w w' : World β}

theorem bound_le_supply (h : Apart bound flow w) : bound ≤ w.supply :=
  Nat.le_trans h.bound_le (Nat.le_of_lt h.lt_supply)

/-- What leaves the flow itself intact leaves it apart. -/
theorem intact (h : Apart bound flow w) (hIntact : Intact w.supply w w') : Apart bound flow w' where
  bound_le := h.bound_le
  lt_supply := Nat.lt_of_lt_of_le h.lt_supply hIntact.supply_le
  ownSlot := by
    unfold World.OwnSlot
    rw [hIntact.slotOf_eq flow h.lt_supply]
    exact h.ownSlot
  le_guard s hs := by
    rw [hIntact.scopes_eq flow h.lt_supply] at hs
    exact h.le_guard s hs

/-- A change of the flow's own slot, of its guards and of their names. -/
theorem change (h : Apart bound flow w) (hSupply : w.supply ≤ w'.supply)
    (hGuards : ∀ id < bound, Assoc.get? w'.guards id = Assoc.get? w.guards id)
    (hFlows : ∀ other ≠ flow, w'.flow other = w.flow other)
    (hSlotOf : ∀ other, w'.slotOf other = w.slotOf other)
    (hSlots : ∀ slot, w.slotOf flow ≠ slot → w'.slots.current slot = w.slots.current slot)
    (hScopes : ∀ s ∈ (w'.flow flow).scopes, bound ≤ s.guard) :
    Intact bound w w' ∧ Apart bound flow w' := by
  refine ⟨⟨hSupply, hGuards, fun other hOther => ?_, fun other _ => hSlotOf other,
    fun other hOther => ?_⟩, ⟨h.bound_le, Nat.lt_of_lt_of_le h.lt_supply hSupply, ?_, hScopes⟩⟩
  · rw [hFlows other (Nat.ne_of_lt (Nat.lt_of_lt_of_le hOther h.bound_le))]
  · have hNe := h.ownSlot.slotOf_ne (Nat.ne_of_lt (Nat.lt_of_lt_of_le hOther h.bound_le))
    rw [World.current, World.current, hSlotOf, hSlots _ hNe]
  · unfold World.OwnSlot
    rw [hSlotOf]
    exact h.ownSlot

/-- A flow that stands apart opens a guard of its own, and leaves everything else intact. -/
theorem openGuard (h : Apart bound flow w) (cx : Context) :
    Intact bound w (w.openGuard flow cx).2 ∧ Apart bound flow (w.openGuard flow cx).2 := by
  refine h.change (Nat.le_succ _) (fun id hid => ?_) (fun _ _ => rfl)
    (fun other => World.slotOf_openGuard w flow cx other) (fun slot hNe => ?_) h.le_guard
  · rw [World.get?_guards_openGuard,
      if_neg (Nat.ne_of_gt (Nat.lt_of_lt_of_le hid h.bound_le_supply))]
  · rw [World.slots_openGuard, Slots.current_attach_of_ne _ _ hNe]

/-- A guard may be closed whether or not it is still open. -/
theorem closeGuard (h : Apart bound flow w) {id : Nat} (hid : bound ≤ id) :
    Intact bound w (w.closeGuard flow id) ∧ Apart bound flow (w.closeGuard flow id) := by
  rcases hGuard : Assoc.get? w.guards id with _ | g
  · rw [World.closeGuard_of_none hGuard]
    exact ⟨.refl, h⟩
  · obtain ⟨t, hClosed⟩ := World.closeGuard_eq flow hGuard
    have hFlows : (w.closeGuard flow id).flows = w.flows := by rw [hClosed]
    have hFlow : ∀ other, (w.closeGuard flow id).flow other = w.flow other := fun other => by
      rw [World.flow, World.flow, hFlows]
    refine h.change (Nat.le_of_eq (World.supply_closeGuard flow hGuard).symm)
      (fun other hOther => ?_)
      (fun other _ => hFlow other) (World.slotOf_closeGuard flow hGuard) (fun slot hNe => ?_) ?_
    · rw [World.get?_guards_closeGuard flow hGuard,
        if_neg (Nat.ne_of_gt (Nat.lt_of_lt_of_le hOther hid))]
    · rw [World.slots_closeGuard flow hGuard, Slots.current_close_of_ne _ _ hNe]
    · rw [hFlow]
      exact h.le_guard

/-- The named guards of the flow are changed, but for ones that others have. -/
theorem modifyFlow (h : Apart bound flow w) {f : Flow → Flow}
    (hRequest : ∀ x, (f x).request = x.request)
    (hScopes : ∀ s ∈ (f (w.flow flow)).scopes, s ∈ (w.flow flow).scopes ∨ bound ≤ s.guard) :
    Intact bound w (w.modifyFlow flow f) ∧ Apart bound flow (w.modifyFlow flow f) := by
  refine h.change (Nat.le_refl _) (fun _ _ => rfl) (fun other hNe => ?_)
    (World.slotOf_modifyFlow hRequest w flow) (fun _ _ => rfl) (fun s hs => ?_)
  · rw [World.flow_modifyFlow, if_neg hNe.symm]
  · rw [World.flow_modifyFlow, if_pos rfl] at hs
    exact (hScopes s hs).elim (h.le_guard s) id

end Apart

/-! ## Beginning and ending a flow -/

section NewFlow

variable (w : World β)

theorem flow_beginFlow (other : Nat) :
    w.beginFlow.2.flow other = if w.supply = other then .fresh else w.flow other := by
  unfold World.beginFlow World.fresh World.flow
  rw [Assoc.get?_insert]
  by_cases h : w.supply = other <;> simp [h]

theorem slotOf_beginFlow {other : Nat} (h : other ≠ w.supply) :
    w.beginFlow.2.slotOf other = w.slotOf other := by
  simp only [World.slotOf, World.hostSlot, flow_beginFlow, if_neg h.symm]
  rfl

/-- A new flow leaves all that there is intact. -/
theorem intact_beginFlow : Intact w.supply w w.beginFlow.2 where
  supply_le := Nat.le_succ _
  guard_eq _ _ := rfl
  scopes_eq other hOther := by rw [flow_beginFlow, if_neg (Nat.ne_of_gt hOther)]
  slotOf_eq other hOther := slotOf_beginFlow w (Nat.ne_of_lt hOther)
  current_eq other hOther := by
    rw [World.current, slotOf_beginFlow w (Nat.ne_of_lt hOther)]
    rfl

/-- A new flow stands apart from all that there are. -/
theorem apart_beginFlow : Apart w.supply w.beginFlow.1 w.beginFlow.2 where
  bound_le := Nat.le_refl _
  lt_supply := Nat.lt_succ_self _
  ownSlot := by
    have hRequest : (w.beginFlow.2.flow w.supply).request = 0 := by
      rw [flow_beginFlow, if_pos rfl]
      rfl
    show w.beginFlow.2.OwnSlot w.supply
    unfold World.OwnSlot World.slotOf World.hostSlot
    rw [hRequest]
    split
    · exact .inr rfl
    · exact .inl rfl
  le_guard s hs := by
    have hNone : (w.beginFlow.2.flow w.beginFlow.1).scopes = [] := by
      rw [flow_beginFlow]
      exact congrArg Flow.scopes (if_pos rfl)
    rw [hNone] at hs
    cases hs

variable {w}

/-- The end of a flow leaves earlier ones intact. -/
theorem intact_endFlow {bound flow : Nat} (h : bound ≤ flow) : Intact bound w (w.endFlow flow) := by
  have hFlow : ∀ other < bound, (w.endFlow flow).flow other = w.flow other := by
    intro other hOther
    have hGet : Assoc.get? (w.endFlow flow).flows other = Assoc.get? w.flows other := by
      show Assoc.get? (Assoc.erase w.flows flow) other = _
      rw [Assoc.get?_erase, if_neg (Nat.ne_of_gt (Nat.lt_of_lt_of_le hOther h))]
    rw [World.flow, World.flow, hGet]
  have hSlotOf : ∀ other < bound, (w.endFlow flow).slotOf other = w.slotOf other := by
    intro other hOther
    simp only [World.slotOf, World.hostSlot, hFlow other hOther]
    rfl
  refine ⟨Nat.le_refl _, fun _ _ => rfl, fun other hOther => ?_, hSlotOf, fun other hOther => ?_⟩
  · rw [hFlow other hOther]
  · have hNe : Slot.thread flow ≠ w.slotOf other := by
      intro hEq
      rcases w.slotOf_cases other with (hOwn | hOwn) | ⟨id, hOwn⟩ <;> rw [hOwn] at hEq <;> cases hEq
      exact Nat.lt_irrefl _ (Nat.lt_of_lt_of_le hOther h)
    show Slots.current (Assoc.erase w.slots (.thread flow)) _ = _
    rw [hSlotOf other hOther, Slots.current, Assoc.get?_erase, if_neg hNe]
    rfl

end NewFlow

end Session

end SpanFlow
