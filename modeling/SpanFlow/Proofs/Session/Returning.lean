import SpanFlow.Proofs.Recording.Lives
import SpanFlow.Proofs.Session.Backing
import SpanFlow.Proofs.Session.Restoring

/-!
# Returning to what is held

Between the opening of a guard and its closing, and while something is kept alive, a session holds
more than before. Afterwards it holds the same again. `Returns` says that a session has come back to
an earlier one: numbers may be gone, spans may have been recorded, and slots may be written down
that no one had written to, but current contexts, guards and everything else that is held are as
they were.

So closing a guard releases nothing, where nothing was loose before. Letting go of what was kept
alive settles the session on what it had held before that.

## Main results

* `reached_iff`: what holdings reach, told from the current contexts and the rest.
* `returns_closeGuard`: closing a guard returns, and nothing is released.
* `returns_unpin`: letting go of what was kept alive returns, and settles on what is held then.
* `tidy_of_backed`: a session is tidy that is backed by an estate, if nothing in it is loose.
-/

namespace SpanFlow

/-! ## Maps without hidden bindings -/

namespace Assoc

variable {κ α : Type} [DecidableEq κ]

/-- No binding of a key hides another one. -/
def Unhidden (m : Assoc κ α) : Prop := ∀ x ∈ m, get? m x.1 = some x.2

variable {m : Assoc κ α}

theorem mem_of_get? {k : κ} {v : α} (h : get? m k = some v) : ∃ x ∈ m, x.2 = v := by
  obtain ⟨x, hFind, hValue⟩ := Option.map_eq_some_iff.1 h
  exact ⟨x, List.mem_of_find?_eq_some hFind, hValue⟩

theorem Unhidden.insert (h : Unhidden m) (k : κ) (v : α) : Unhidden (Assoc.insert m k v) := by
  intro x hx
  rw [get?_insert]
  rcases mem_insert.1 hx with rfl | ⟨hOld, hNe⟩
  · exact if_pos rfl
  · rw [if_neg hNe.symm]
    exact h x hOld

theorem Unhidden.erase (h : Unhidden m) (k : κ) : Unhidden (Assoc.erase m k) := by
  intro x hx
  obtain ⟨hOld, hNe⟩ := mem_erase.1 hx
  rw [get?_erase, if_neg hNe.symm]
  exact h x hOld

/-- A key that was not there is taken out again. -/
theorem erase_insert {k : κ} (h : ∀ x ∈ m, x.1 ≠ k) (v : α) : erase (insert m k v) k = m := by
  rw [insert, erase, List.filter_cons_of_neg (by simp), erase, List.filter_filter]
  exact List.filter_eq_self.2 fun x hx => by simpa using h x hx

theorem insert_insert (k : κ) (v v' : α) : insert (insert m k v) k v' = insert m k v' := by
  rw [insert, insert, erase, List.filter_cons_of_neg (by simp), erase, List.filter_filter]
  simp [insert, erase]

end Assoc

namespace Slots

variable {slots : Slots}

theorem unhidden_attach (h : Assoc.Unhidden slots) (slot : Slot) (cx : Context) :
    Assoc.Unhidden (slots.attach slot cx) := by
  unfold attach
  split
  · exact h
  · exact h.insert _ _

theorem unhidden_close (h : Assoc.Unhidden slots) (slot : Slot) (g : Guard) :
    Assoc.Unhidden (slots.close slot g) := by
  unfold close
  split
  · exact h
  · exact h.insert _ _

end Slots

/-- Settling depends on nothing but what is reached. -/
theorem Telemetry.settle_congr {t : Telemetry} {held held' : List Holding}
    (hSpans : ∀ id, id ∈ reachedSpans held ↔ id ∈ reachedSpans held')
    (hProviders : ∀ p, p ∈ reachedProviders held ↔ p ∈ reachedProviders held') :
    t.settle held = t.settle held' := by
  have hSpan : ∀ id, held.any (Holding.holdsSpan id) = held'.any (Holding.holdsSpan id) :=
    fun id => Bool.eq_iff_iff.2 (by rw [any_holdsSpan, any_holdsSpan, hSpans])
  have hProvider : ∀ p, held.any (Holding.holdsProvider p) = held'.any (Holding.holdsProvider p) :=
    fun p => Bool.eq_iff_iff.2 (by rw [any_holdsProvider, any_holdsProvider, hProviders])
  have hSpanLoose : ∀ (t : Telemetry) id, t.spanIsLoose held id = t.spanIsLoose held' id :=
    fun t id => by simp only [spanIsLoose, hSpan]
  have hProviderLoose : ∀ (t : Telemetry) p, t.providerIsLoose held p = t.providerIsLoose held' p :=
    fun t p => by simp only [providerIsLoose, hProvider]
  have hSettleSpan : settleSpan held = settleSpan held' := by
    funext t id
    rw [settleSpan, settleSpan, hSpanLoose]
  have hSettleProvider : settleProvider held = settleProvider held' := by
    funext t p
    rw [settleProvider, settleProvider, hProviderLoose]
  rw [settle, settle, hSettleSpan, hSettleProvider]

namespace Session

open Telemetry

variable {β : Type}

/-! ## What a session holds -/

namespace World

/-- What a session holds other than by slots, by guards and by what it keeps alive. -/
def elsewhere (w : World β) : List Holding :=
  ({ w with slots := [], guards := [], pins := [] } : World β).holdings

/-- The holdings of a session: the current context of a slot, a context of a guard, something kept
alive, or something elsewhere. -/
def Has (w : World β) (x : Holding) : Prop :=
  (∃ slot, x = .context (w.slots.current slot)) ∨
    (∃ g ∈ w.guards, ∃ cx ∈ g.2.contexts, x = .context cx) ∨
      (∃ pin ∈ w.pins, x = pin.2) ∨ x ∈ w.elsewhere

theorem has_of_mem_holdings {w : World β} (h : Assoc.Unhidden w.slots) {x : Holding}
    (hx : x ∈ w.holdings) : w.Has x := by
  simp only [Has, elsewhere, mem_holdings, mem_contextsHeld] at hx ⊢
  rcases hx with ⟨cx, hcx, rfl⟩ | ⟨pin, hPin, rfl⟩ | hOther
  · rcases hcx with hName | ⟨y, hy, rfl⟩ | ⟨g, hg, hIn⟩ | hOther
    · exact .inr (.inr (.inr (.inl ⟨cx, .inl hName, rfl⟩)))
    · exact .inl ⟨y.1, by rw [Slots.current, h y hy]; rfl⟩
    · exact .inr (.inl ⟨g, hg, cx, hIn, rfl⟩)
    · exact .inr (.inr (.inr (.inl ⟨cx, .inr (.inr (.inr hOther)), rfl⟩)))
  · exact .inr (.inr (.inl ⟨pin, hPin, rfl⟩))
  · exact .inr (.inr (.inr (.inr (.inr hOther))))

/-- A slot that was never written to has the root, which the session need not hold. -/
theorem mem_holdings_of_has {w : World β} {x : Holding} (h : w.Has x) :
    x ∈ w.holdings ∨ x = .context .root := by
  simp only [Has, elsewhere, mem_holdings, mem_contextsHeld] at h ⊢
  rcases h with ⟨slot, rfl⟩ | ⟨g, hg, cx, hIn, rfl⟩ | ⟨pin, hPin, rfl⟩ | hOther
  · unfold Slots.current
    cases hGet : Assoc.get? w.slots slot with
    | none => exact .inr rfl
    | some cx =>
      obtain ⟨y, hy, hSame⟩ := Assoc.mem_of_get? hGet
      exact .inl (.inl ⟨cx, .inr (.inl ⟨y, hy, hSame⟩), rfl⟩)
  · exact .inl (.inl ⟨cx, .inr (.inr (.inl ⟨g, hg, hIn⟩)), rfl⟩)
  · exact .inl (.inr (.inl ⟨pin, hPin, rfl⟩))
  · rcases hOther with ⟨cx, hcx, rfl⟩ | hPin | hOther
    · rcases hcx with hName | hSlot | hGuard | hOther
      · exact .inl (.inl ⟨cx, .inl hName, rfl⟩)
      · exact absurd hSlot (by simp)
      · exact absurd hGuard (by simp)
      · exact .inl (.inl ⟨cx, .inr (.inr (.inr hOther)), rfl⟩)
    · exact absurd hPin (by simp)
    · exact .inl (.inr (.inr hOther))

/-- What holdings reach is what the session has that reaches it: the root reaches nothing. -/
theorem reached_iff {w : World β} (h : Assoc.Unhidden w.slots) {f : Holding → Option Nat}
    (hRoot : f (.context .root) = none) (n : Nat) :
    n ∈ w.holdings.filterMap f ↔ ∃ x, w.Has x ∧ f x = some n := by
  rw [List.mem_filterMap]
  constructor
  · rintro ⟨x, hx, hReached⟩
    exact ⟨x, has_of_mem_holdings h hx, hReached⟩
  · rintro ⟨x, hx, hReached⟩
    rcases mem_holdings_of_has hx with hHeld | rfl
    · exact ⟨x, hHeld, hReached⟩
    · rw [hRoot] at hReached
      cases hReached

theorem mem_reachedSpans {w : World β} (h : Assoc.Unhidden w.slots) {id : Nat} :
    id ∈ reachedSpans w.holdings ↔ ∃ x, w.Has x ∧ x.span? = some id :=
  reached_iff h rfl id

/-- A session that has settled is calm. -/
theorem calm_settle (w : World β) : Calm w.settle.telemetry w.settle.holdings :=
  Telemetry.calm_settle w.telemetry w.holdings

section Reach

variable {w w' : World β} (h : Assoc.Unhidden w.slots) (h' : Assoc.Unhidden w'.slots)
include h h'

theorem reachedSpans_mono (hHas : ∀ x, w.Has x → w'.Has x) (id : Nat)
    (hid : id ∈ reachedSpans w.holdings) : id ∈ reachedSpans w'.holdings := by
  obtain ⟨x, hx, hReached⟩ := (mem_reachedSpans h).1 hid
  exact (mem_reachedSpans h').2 ⟨x, hHas x hx, hReached⟩

theorem reachedProviders_mono (hHas : ∀ x, w.Has x → w'.Has x) (p : Nat)
    (hp : p ∈ reachedProviders w.holdings) : p ∈ reachedProviders w'.holdings := by
  obtain ⟨x, hx, hReached⟩ := (reached_iff h rfl p).1 hp
  exact (reached_iff h' rfl p).2 ⟨x, hHas x hx, hReached⟩

/-- What is calm is calm where more is held. -/
theorem calm_mono {t : Telemetry} (hCalm : Calm t w.holdings) (hHas : ∀ x, w.Has x → w'.Has x) :
    Calm t w'.holdings :=
  hCalm.mono (reachedSpans_mono h h' hHas) (reachedProviders_mono h h' hHas)

/-- So is what is calm but for something that is held now. -/
theorem calm_cons {t : Telemetry} {x : Holding} (hCalm : Calm t (x :: w.holdings)) (hNew : w'.Has x)
    (hHas : ∀ y, w.Has y → w'.Has y) : Calm t w'.holdings := by
  have hReached : ∀ {f : Holding → Option Nat}, f (.context .root) = none →
      ∀ n ∈ (x :: w.holdings).filterMap f, n ∈ w'.holdings.filterMap f := by
    intro f hRoot n hn
    obtain ⟨y, hy, hSome⟩ := List.mem_filterMap.1 hn
    rcases List.mem_cons.1 hy with rfl | hOld
    · exact (reached_iff h' hRoot n).2 ⟨y, hNew, hSome⟩
    · exact (reached_iff h' hRoot n).2 ⟨y, hHas y (has_of_mem_holdings h hOld), hSome⟩
  exact hCalm.mono (hReached rfl) (hReached rfl)

/-- Where the same is held, settling is the same. -/
theorem settle_eq_of_has (t : Telemetry) (hHas : ∀ x, w'.Has x ↔ w.Has x) :
    t.settle w'.holdings = t.settle w.holdings :=
  settle_congr
    (fun id => ⟨reachedSpans_mono h' h (fun x => (hHas x).1) id,
      reachedSpans_mono h h' (fun x => (hHas x).2) id⟩)
    (fun p => ⟨reachedProviders_mono h' h (fun x => (hHas x).1) p,
      reachedProviders_mono h h' (fun x => (hHas x).2) p⟩)

end Reach

end World

/-! ## Sessions that come back -/

/-- The numbers of guards and of what is kept alive are from the supply, and no slot is written down
twice. -/
structure Keyed (w : World β) : Prop where
  guards : ∀ g ∈ w.guards, g.1 < w.supply
  pins : ∀ pin ∈ w.pins, pin.1 < w.supply
  slots : Assoc.Unhidden w.slots

/-- A session has come back to an earlier one. -/
structure Returns (w w' : World β) : Prop where
  supply_le : w.supply ≤ w'.supply
  eq : w' = { w with supply := w'.supply, telemetry := w'.telemetry, slots := w'.slots }
  current_eq : ∀ slot, w'.slots.current slot = w.slots.current slot
  slots : Assoc.Unhidden w.slots → Assoc.Unhidden w'.slots

namespace Returns

variable {w w' w'' : World β}

theorem refl : Returns w w := ⟨Nat.le_refl _, rfl, fun _ => rfl, id⟩

theorem trans (h : Returns w w') (h' : Returns w' w'') : Returns w w'' where
  supply_le := Nat.le_trans h.supply_le h'.supply_le
  eq := by
    rw [h'.eq, h.eq]
  current_eq slot := (h'.current_eq slot).trans (h.current_eq slot)
  slots hSlots := h'.slots (h.slots hSlots)

/-- Recording alone changes nothing that is held. -/
theorem of_telemetry (t : Telemetry) : Returns w { w with telemetry := t } :=
  ⟨Nat.le_refl _, rfl, fun _ => rfl, id⟩

/-- A number may be taken. -/
theorem fresh : Returns w w.fresh.2 := ⟨Nat.le_succ _, rfl, fun _ => rfl, id⟩

theorem guards_eq (h : Returns w w') : w'.guards = w.guards := by rw [h.eq]

theorem pins_eq (h : Returns w w') : w'.pins = w.pins := by rw [h.eq]

theorem tracers_eq (h : Returns w w') : w'.tracers = w.tracers := by rw [h.eq]

theorem elsewhere_eq (h : Returns w w') : w'.elsewhere = w.elsewhere := by
  rw [h.eq]
  rfl

theorem slotOf_eq (h : Returns w w') (flow : Nat) : w'.slotOf flow = w.slotOf flow := by
  rw [h.eq]
  exact World.slotOf_congr rfl rfl flow

theorem current_flow (h : Returns w w') (flow : Nat) : w'.current flow = w.current flow := by
  rw [World.current, World.current, h.slotOf_eq, h.current_eq]

theorem has_iff (h : Returns w w') (x : Holding) : w'.Has x ↔ w.Has x := by
  simp only [World.Has, h.guards_eq, h.pins_eq, h.elsewhere_eq, h.current_eq]

theorem keyed (h : Returns w w') (hw : Keyed w) : Keyed w' where
  guards g hg := Nat.lt_of_lt_of_le (hw.guards g (h.guards_eq ▸ hg)) h.supply_le
  pins pin hPin := Nat.lt_of_lt_of_le (hw.pins pin (h.pins_eq ▸ hPin)) h.supply_le
  slots := h.slots hw.slots

end Returns

section Keyed

variable {w : World β} (hw : Keyed w)
include hw

theorem Keyed.pin (x : Holding) : Keyed (w.pin x).2 where
  guards g hg := Nat.lt_succ_of_lt (hw.guards g hg)
  pins pin hPin := by
    rcases Assoc.mem_insert.1 hPin with rfl | ⟨hOld, -⟩
    · exact Nat.lt_succ_self _
    · exact Nat.lt_succ_of_lt (hw.pins pin hOld)
  slots := hw.slots

theorem Keyed.openGuard (flow : Nat) (cx : Context) : Keyed (w.openGuard flow cx).2 where
  guards g hg := by
    rcases Assoc.mem_insert.1 hg with rfl | ⟨hOld, -⟩
    · exact Nat.lt_succ_self _
    · exact Nat.lt_succ_of_lt (hw.guards g hOld)
  pins pin hPin := Nat.lt_succ_of_lt (hw.pins pin hPin)
  slots := Slots.unhidden_attach hw.slots _ _

/-- What is kept alive is held besides all that was. -/
theorem has_pin (x y : Holding) : (w.pin x).2.Has y ↔ y = x ∨ w.Has y := by
  constructor
  · rintro (hSlot | hGuard | ⟨pin, hPin, rfl⟩ | hElsewhere)
    · exact .inr (.inl hSlot)
    · exact .inr (.inr (.inl hGuard))
    · rcases Assoc.mem_insert.1 hPin with rfl | ⟨hOld, -⟩
      · exact .inl rfl
      · exact .inr (.inr (.inr (.inl ⟨pin, hOld, rfl⟩)))
    · exact .inr (.inr (.inr (.inr hElsewhere)))
  · rintro (rfl | hSlot | hGuard | ⟨pin, hPin, rfl⟩ | hElsewhere)
    · exact .inr (.inr (.inl ⟨_, Assoc.mem_insert.2 (.inl rfl), rfl⟩))
    · exact .inl hSlot
    · exact .inr (.inl hGuard)
    · have hNe : pin.1 ≠ w.supply := Nat.ne_of_lt (hw.pins pin hPin)
      exact .inr (.inr (.inl ⟨pin, Assoc.mem_insert.2 (.inr ⟨hPin, hNe⟩), rfl⟩))
    · exact .inr (.inr (.inr hElsewhere))

/-- A guard may only be put in the place of the one that was opened last. -/
theorem has_openGuard {flow : Nat} {cx : Context} {y : Holding} (hy : w.Has y) :
    (w.openGuard flow cx).2.Has y := by
  rcases hy with ⟨slot, rfl⟩ | ⟨g, hg, hIn⟩ | hPin | hElsewhere
  · by_cases hSame : (w.current flow).same cx = true
    · refine .inl ⟨slot, ?_⟩
      have hAttach : w.slots.attach (w.slotOf flow) cx = w.slots := by
        rw [World.current] at hSame
        simp [Slots.attach, Guard.of, hSame]
      rw [World.slots_openGuard, hAttach]
    · by_cases hSlot : w.slotOf flow = slot
      · refine .inr (.inl ⟨(w.supply, Guard.of (w.current flow) cx), ?_, w.current flow, ?_, ?_⟩)
        · exact Assoc.mem_insert.2 (.inl rfl)
        · simp [Guard.of, hSame, Guard.contexts]
        · rw [← hSlot]
          rfl
      · refine .inl ⟨slot, ?_⟩
        rw [World.slots_openGuard]
        have hElse : (w.slots.attach (w.slotOf flow) cx).current slot = w.slots.current slot := by
          unfold Slots.attach
          split
          · rfl
          · exact Slots.current_replace_of_ne _ _ hSlot
        rw [hElse]
  · exact .inr (.inl ⟨g, Assoc.mem_insert.2 (.inr ⟨hg, Nat.ne_of_lt (hw.guards g hg)⟩), hIn⟩)
  · exact .inr (.inr (.inl hPin))
  · exact .inr (.inr (.inr hElsewhere))

/-- What is kept alive is held, and so are the context that is attached and the one from before. -/
theorem calm_pin {t : Telemetry} {x : Holding} (h : Calm t (x :: w.holdings)) :
    Calm t (w.pin x).2.holdings :=
  World.calm_cons hw.slots (hw.pin x).slots h ((has_pin hw x x).2 (.inl rfl))
    fun y hy => (has_pin hw x y).2 (.inr hy)

theorem calm_openGuard {t : Telemetry} {flow : Nat} {cx : Context}
    (h : Calm t (.context cx :: w.holdings)) : Calm t (w.openGuard flow cx).2.holdings := by
  refine World.calm_cons hw.slots (hw.openGuard flow cx).slots h ?_ fun y hy => has_openGuard hw hy
  refine .inr (.inl ⟨(w.supply, Guard.of (w.current flow) cx), ?_, cx, ?_, rfl⟩)
  · exact Assoc.mem_insert.2 (.inl rfl)
  · unfold Guard.of
    split <;> exact List.mem_append_right _ (List.mem_singleton.2 rfl)

end Keyed

/-! ## Closing a guard -/

section Bracket

variable {w w' : World β} (hw : Keyed w)
include hw

/-- Closing a guard returns from work that has returned. Where nothing was loose before the guard
was opened nothing is now, neither while the guard still has its context nor then. -/
theorem returns_closeGuard {flow : Nat} {cx : Context} (h : Returns (w.openGuard flow cx).2 w')
    (hCalm : Calm w'.telemetry w.holdings) :
    Returns w (w'.closeGuard flow (w.openGuard flow cx).1) ∧
      (w'.closeGuard flow (w.openGuard flow cx).1).telemetry = w'.telemetry := by
  have hOld : ∀ g ∈ w.guards, g.1 ≠ w.supply := fun g hg => Nat.ne_of_lt (hw.guards g hg)
  have hGuards : w'.guards = Assoc.insert w.guards w.supply (Guard.of (w.current flow) cx) :=
    h.guards_eq
  have hGuard : Assoc.get? w'.guards w.supply = some (Guard.of (w.current flow) cx) := by
    rw [hGuards, Assoc.get?_insert, if_pos rfl]
  have hSlot : w'.slotOf flow = w.slotOf flow :=
    (h.slotOf_eq flow).trans (World.slotOf_openGuard ..)
  have hCurrent : ∀ slot, w'.slots.current slot =
      (w.slots.attach (w.slotOf flow) cx).current slot := h.current_eq
  have hTurn : (Guard.of (w.current flow) cx).outOfOrder (w'.slots.current (w'.slotOf flow)) =
      false := by
    rw [World.current, hSlot]
    exact Guard.outOfOrder_of_attach hCurrent
  let slots := w'.slots.close (w.slotOf flow) (Guard.of (w.current flow) cx)
  have hSlots : ∀ slot, slots.current slot = w.slots.current slot :=
    Slots.current_close_attach hCurrent
  have hUnhidden : Assoc.Unhidden slots :=
    Slots.unhidden_close (h.slots (hw.openGuard flow cx).slots) _ _
  let closing : World β := { w' with
    slots := slots
    guards := Assoc.insert w.guards w.supply ⟨none, (Guard.of (w.current flow) cx).attached⟩ }
  let closed : World β := { w' with slots := slots, guards := w.guards }
  have hElsewhere : w'.elsewhere = w.elsewhere := h.elsewhere_eq
  have hPins : w'.pins = w.pins := h.pins_eq
  have hHas : ∀ x, w.Has x → closed.Has x := by
    intro x hx
    simp only [World.Has, closed, hSlots, hPins]
    exact hElsewhere ▸ hx
  have hHasClosing : ∀ x, closed.Has x → closing.Has x := by
    rintro x (hCurrent | ⟨g, hg, hIn⟩ | hRest)
    · exact .inl hCurrent
    · exact .inr (.inl ⟨g, Assoc.mem_insert.2 (.inr ⟨hg, hOld g hg⟩), hIn⟩)
    · exact .inr (.inr hRest)
  have hClosedCalm : Calm w'.telemetry closed.holdings :=
    World.calm_mono hw.slots hUnhidden hCalm hHas
  have hClosingCalm : Calm w'.telemetry closing.holdings :=
    World.calm_mono hUnhidden hUnhidden hClosedCalm hHasClosing
  have hClosing : closing.settle = closing := by
    rw [World.settle, settle_of_calm hClosingCalm]
  have hClosed : closed.settle = closed := by
    rw [World.settle, settle_of_calm hClosedCalm]
  have hEq : w'.closeGuard flow w.supply = closed := by
    unfold World.closeGuard
    rw [hGuard]
    dsimp only
    rw [hTurn, if_neg Bool.false_ne_true, hSlot, hGuards, Assoc.insert_insert]
    show
      { closing.settle with guards := Assoc.erase closing.settle.guards w.supply }.settle = closed
    rw [hClosing]
    show { w' with
      slots := slots
      guards := Assoc.erase (Assoc.insert w.guards w.supply _) w.supply }.settle = closed
    rw [Assoc.erase_insert hOld]
    exact hClosed
  rw [World.openGuard_fst, hEq]
  refine ⟨⟨?_, ?_, hSlots, fun _ => hUnhidden⟩, rfl⟩
  · exact Nat.le_trans (Nat.le_succ _) h.supply_le
  · show { w' with slots := slots, guards := w.guards } = _
    rw [h.eq]
    rfl

/-- Letting go of what was kept alive returns from work that has returned, and settles on what was
held before. -/
theorem returns_unpin {x : Holding} (h : Returns (w.pin x).2 w') :
    Returns w (w'.unpin (w.pin x).1) ∧
      (w'.unpin (w.pin x).1).telemetry = w'.telemetry.settle w.holdings := by
  have hOld : ∀ pin ∈ w.pins, pin.1 ≠ w.supply := fun pin hPin => Nat.ne_of_lt (hw.pins pin hPin)
  have hPins : Assoc.erase w'.pins w.supply = w.pins := by
    rw [h.pins_eq]
    exact Assoc.erase_insert hOld x
  let left : World β := { w' with pins := w.pins }
  have hSlots : Assoc.Unhidden left.slots := h.slots hw.slots
  have hReturns : Returns w left := by
    refine ⟨Nat.le_trans (Nat.le_succ _) h.supply_le, ?_, h.current_eq, fun _ => hSlots⟩
    show { w' with pins := w.pins } = _
    rw [h.eq]
    rfl
  have hEq : w'.unpin w.supply =
      { left with telemetry := w'.telemetry.settle left.holdings } := by
    unfold World.unpin
    rw [hPins]
    rfl
  have hSettled : w'.telemetry.settle left.holdings = w'.telemetry.settle w.holdings :=
    World.settle_eq_of_has hw.slots hSlots w'.telemetry hReturns.has_iff
  show Returns w (w'.unpin w.supply) ∧ (w'.unpin w.supply).telemetry = _
  rw [hEq]
  exact ⟨hReturns.trans (.of_telemetry _), hSettled⟩

end Bracket

/-! ## Tidy sessions -/

/-- A session between two steps: nothing is loose, and nothing is held that is not there. -/
structure Tidy (w : World β) : Prop where
  keyed : Keyed w
  sound : Sound w.telemetry
  calm : Calm w.telemetry w.holdings
  span_lt : ∀ id ∈ reachedSpans w.holdings, id < w.telemetry.spans.length

theorem Tidy.lt_of_has {w : World β} (h : Tidy w) {x : Holding} (hx : w.Has x) {id : Nat}
    (hSpan : x.span? = some id) : id < w.telemetry.spans.length :=
  h.span_lt id ((World.mem_reachedSpans h.keyed.slots).2 ⟨x, hx, hSpan⟩)

/-- A session that is backed by an estate holds nothing that is not there. -/
theorem tidy_of_backed {w : World β} (h : Backed .any w) (hw : Keyed w)
    (hCalm : Calm w.telemetry w.holdings) : Tidy w := by
  obtain ⟨E, hE⟩ := h
  obtain ⟨moves, hMoves⟩ := hE.came
  constructor
  case keyed => exact hw
  case sound =>
    rw [hE.telemetry]
    exact sound_afterAll sound_empty _
  case calm => exact hCalm
  case span_lt =>
    intro id hid
    have hKept : Estate.Kept (Course.any.origin.run moves) := Estate.kept_empty.run moves
    rw [← hMoves] at hKept
    rw [hE.telemetry]
    exact hKept.span_lt id ((reachesWithin_iff.1 hE.reachesWithin_holdings).1 id hid)

end Session

end SpanFlow
