import SpanFlow.Proofs.Context.Sharing
import SpanFlow.Proofs.Session.Backing
import SpanFlow.Proofs.Session.Restoring

/-!
# The instances of a session

The contexts of a session are all drawn from such as were made one after the other, under numbers
that its supply has passed. What a session does with contexts draws on the same ones, unless it
derives one, and for that it takes a number from the supply. So the supply is never behind, and the
next instance that is derived is none of those that are there.

As with handles this is stated for one kind of holder after the other, so that a change of one kind
leaves the others alone.

## Main results

* `Context.Made.grows_derive`: a derivation under the next number.
* `DrawnFrom.openGuard`, `Drawn.closeGuard`: scopes make no contexts.
* `DrawnFrom.mem_of_held`: all that a session holds is drawn from the contexts that were made.
-/

namespace SpanFlow

namespace Context

/-- More contexts may have been made meanwhile, and more numbers used, and this context is one that
was made. -/
structure Grows (next : Nat) (made : List Context) (later : Nat) (cx : Context) : Prop where
  next_le : next ≤ later
  exists_made : ∃ made', Made later made' ∧ made ⊆ made' ∧ cx ∈ made'

variable {next : Nat} {made : List Context} {cx : Context}

theorem Made.grows_self (h : Made next made) (hcx : cx ∈ made) : Grows next made next cx :=
  ⟨Nat.le_refl _, made, h, List.Subset.refl _, hcx⟩

/-- A derivation takes the next number, and needs an allocation that is there or a new one. -/
theorem Made.grows_derive (h : Made next made) (hcx : cx ∈ made) {d : Derivation}
    (hid : d.id = next) (hHeld : d.binding.allocation ≤ next) :
    Grows next made (next + 1) (d.apply cx) where
  next_le := Nat.le_succ next
  exists_made := ⟨d.apply cx :: made,
    .derive h hcx (Nat.le_of_eq hid.symm) (hid ▸ Nat.lt_succ_self _) (Nat.lt_succ_of_le hHeld),
    List.subset_cons_self _ _, List.mem_cons_self⟩

end Context

open Context

/-- A propagator derives contexts, if any, under numbers from the supply upwards. -/
def Propagator.Derives (p : Propagator) : Prop :=
  ∀ reader cx next made, Made next made → cx ∈ made →
    Grows next made (p.extract reader cx next).next (p.extract reader cx next).context

namespace Propagator

theorem derives_noop : noop.Derives := by
  intro reader cx next made hMade hcx
  rw [extract]
  exact hMade.grows_self hcx

theorem derives_jaeger (header : String) : (jaeger header).Derives := by
  intro reader cx next made hMade hcx
  rw [extract]
  unfold extractJaeger
  split
  · exact hMade.grows_self hcx
  · split
    · exact hMade.grows_derive (d := .remote next _) hcx rfl (Nat.le_refl _)
    · exact hMade.grows_self hcx

theorem derives_ofKey (key : Key) (header : String) (fields : List String) :
    (ofKey key header fields).Derives := by
  intro reader cx next made hMade hcx
  unfold ofKey
  rw [extract]
  dsimp only
  split
  · exact hMade.grows_self hcx
  · exact hMade.grows_derive (d := .value next key.id _) hcx rfl (Nat.le_refl _)

/-- Each member goes on with what the one before it has made. -/
theorem derives_composite {members : List Propagator} (h : ∀ p ∈ members, p.Derives) :
    (composite members).Derives := by
  intro reader cx next made hMade hcx
  rw [extract]
  induction members generalizing cx next made with
  | nil =>
    rw [extractAll]
    exact hMade.grows_self hcx
  | cons p rest ih =>
    obtain ⟨hFirst, hRest⟩ := List.forall_mem_cons.1 h
    obtain ⟨hLater, made', hMade', hMore, hMem⟩ := hFirst reader cx next made hMade hcx
    obtain ⟨hLast, made'', hMade'', hMore', hMem'⟩ := ih hRest _ _ _ hMade' hMem
    rw [extractAll]
    exact ⟨Nat.le_trans hLater hLast, made'', hMade'', fun x hx => hMore' (hMore hx), hMem'⟩

end Propagator

theorem Assoc.All.imp {κ α : Type} {m : Assoc κ α} {P Q : α → Prop} (h : m.All P)
    (hImp : ∀ x, P x → Q x) : m.All Q := fun x hx => hImp x.2 (h x hx)

namespace Session

variable {β : Type} {made : List Context} {w : World β}

/-- The contexts of a session are drawn from such as were made, and numbers from its supply have not
been used. -/
structure DrawnFrom (made : List Context) (w : World β) : Prop where
  upwards : Made w.supply made
  contexts : w.contexts.All (· ∈ made)
  slots : w.slots.All (· ∈ made)
  guards : w.guards.All fun g => ∀ cx ∈ g.contexts, cx ∈ made
  works : w.works.All fun x => x.context ∈ made
  executors : w.executors.All fun x => ∀ cx ∈ x.context?, cx ∈ made
  futures : w.futures.All fun x => ∀ cx ∈ x.context?, cx ∈ made
  streams : w.streams.All fun x => ∀ cx ∈ x.context?, cx ∈ made
  sinks : w.sinks.All fun x => ∀ cx ∈ x.context?, cx ∈ made
  queue : ∀ x ∈ w.queue, x.1 ∈ made
  pins : w.pins.All fun x => ∀ cx, x = .context cx → cx ∈ made
  shared : w.shared.All (·.allocation < w.supply)
  propagators : w.propagators.All Propagator.Derives
  global : w.global.Derives

/-- Some contexts that were made are those from which a session draws. -/
def Drawn (w : World β) : Prop := ∃ made, DrawnFrom made w

namespace DrawnFrom

variable (h : DrawnFrom made w)
include h

/-- All that a session holds is drawn from the contexts that were made. -/
theorem mem_of_held {cx : Context} (hcx : .context cx ∈ w.holdings) : cx ∈ made := by
  rcases World.mem_holdings.1 hcx with ⟨other, hOther, hSame⟩ | ⟨x, hx, hSame⟩ | hRest
  · obtain rfl := Holding.context.inj hSame
    rcases World.mem_contextsHeld.1 hOther with ⟨y, hy, rfl⟩ | ⟨y, hy, rfl⟩ | ⟨y, hy, hIn⟩ |
      ⟨y, hy, rfl⟩ | ⟨y, hy, hIn⟩ | ⟨y, hy, hIn⟩ | ⟨y, hy, hIn⟩ | ⟨y, hy, hIn⟩ | ⟨y, hy, rfl⟩
    · exact h.contexts y hy
    · exact h.slots y hy
    · exact h.guards y hy _ hIn
    · exact h.works y hy
    · exact h.executors y hy _ hIn
    · exact h.futures y hy _ hIn
    · exact h.streams y hy _ hIn
    · exact h.sinks y hy _ hIn
    · exact h.queue y hy
  · exact h.pins x hx cx hSame
  · rcases hRest with ⟨_, _, hSame⟩ | ⟨_, _, hSame⟩ | ⟨_, _, hSame⟩ <;> cases hSame

/-- More contexts may be made, and more numbers used. -/
theorem grow {made' : List Context} {later : Nat} (hLater : w.supply ≤ later)
    (hMade : Made later made') (hMore : made ⊆ made') :
    DrawnFrom made' { w with supply := later } where
  upwards := hMade
  contexts := h.contexts.imp fun _ hx => hMore hx
  slots := h.slots.imp fun _ hx => hMore hx
  guards := h.guards.imp fun _ hx cx hcx => hMore (hx cx hcx)
  works := h.works.imp fun _ hx => hMore hx
  executors := h.executors.imp fun _ hx cx hcx => hMore (hx cx hcx)
  futures := h.futures.imp fun _ hx cx hcx => hMore (hx cx hcx)
  streams := h.streams.imp fun _ hx cx hcx => hMore (hx cx hcx)
  sinks := h.sinks.imp fun _ hx cx hcx => hMore (hx cx hcx)
  queue := fun x hx => hMore (h.queue x hx)
  pins := h.pins.imp fun _ hx cx hcx => hMore (hx cx hcx)
  shared := h.shared.imp fun _ hx => Nat.lt_of_lt_of_le hx hLater
  propagators := h.propagators
  global := h.global

theorem fresh : DrawnFrom made w.fresh.2 :=
  h.grow (Nat.le_succ _) (h.upwards.mono (Nat.le_succ _)) (List.Subset.refl _)

/-- What is derived under the next number can be drawn as well. -/
theorem derive {cx : Context} (hcx : cx ∈ made) {d : Derivation} (hid : d.id = w.supply)
    (hHeld : d.binding.allocation ≤ w.supply) :
    ∃ made', DrawnFrom made' w.fresh.2 ∧ d.apply cx ∈ made' := by
  obtain ⟨hLater, made', hMade, hMore, hMem⟩ := h.upwards.grows_derive hcx hid hHeld
  exact ⟨made', h.grow hLater hMade hMore, hMem⟩

/-! ## Flows and scopes -/

theorem slot_mem (slot : Slot) : w.slots.current slot ∈ made := by
  unfold Slots.current
  cases hGet : Assoc.get? w.slots slot with
  | none => exact h.upwards.root_mem
  | some cx => exact h.slots.of_get? hGet

theorem current_mem (flow : Nat) : w.current flow ∈ made := h.slot_mem _

theorem pin {x : Holding} (hx : ∀ cx, x = .context cx → cx ∈ made) : DrawnFrom made (w.pin x).2 :=
  { h.fresh with pins := h.fresh.pins.insert _ hx }

theorem pinContext {cx : Context} (hcx : cx ∈ made) : DrawnFrom made (w.pin (.context cx)).2 :=
  h.pin fun _ hSame => Holding.context.inj hSame ▸ hcx

theorem beginFlow : DrawnFrom made w.beginFlow.2 := { h.fresh with }

/-- A scope makes no context. -/
theorem openGuard (flow : Nat) {cx : Context} (hcx : cx ∈ made) :
    DrawnFrom made (w.openGuard flow cx).2 := by
  have hSlots : (w.slots.attach (w.slotOf flow) cx).All (· ∈ made) := by
    unfold Slots.attach
    split
    · exact h.slots
    · exact h.slots.insert _ hcx
  have hGuard : ∀ other ∈ (Guard.of (w.current flow) cx).contexts, other ∈ made := by
    intro other hOther
    unfold Guard.of at hOther
    split at hOther
    · obtain rfl := List.mem_singleton.1 hOther
      exact hcx
    · rcases List.mem_cons.1 hOther with rfl | hAttached
      · exact h.current_mem flow
      · obtain rfl := List.mem_singleton.1 hAttached
        exact hcx
  exact { h.fresh with slots := hSlots, guards := h.guards.insert _ hGuard }

end DrawnFrom

namespace Drawn

variable (h : Drawn w)
include h

theorem takeLog : Drawn w.takeLog.2 := by
  obtain ⟨made, h⟩ := h
  exact ⟨made, { h with }⟩

theorem endFlow (id : Nat) : Drawn (w.endFlow id) := by
  obtain ⟨made, h⟩ := h
  exact ⟨made, { h with slots := h.slots.erase _ }⟩

theorem unpin (id : Nat) : Drawn (w.unpin id) := by
  obtain ⟨made, h⟩ := h
  exact ⟨made, { h with pins := h.pins.erase _ }⟩

/-- Closing puts back a context that the guard has kept. -/
theorem closeGuard (flow id : Nat) : Drawn (w.closeGuard flow id) := by
  obtain ⟨made, h⟩ := h
  cases hGuard : Assoc.get? w.guards id with
  | none =>
    rw [World.closeGuard_of_none hGuard]
    exact ⟨made, h⟩
  | some g =>
    obtain ⟨t, hClosed⟩ := World.closeGuard_eq flow hGuard
    have hKept := h.guards.of_get? hGuard
    have hSlots : (w.slots.close (w.slotOf flow) g).All (· ∈ made) := by
      unfold Slots.close
      split
      · exact h.slots
      · rename_i previous hPrevious
        exact h.slots.insert _ (hKept previous (by simp [Guard.contexts, hPrevious]))
    have hLeft : ∀ cx ∈ (⟨none, g.attached⟩ : Guard).contexts, cx ∈ made := fun cx hcx =>
      hKept cx (List.mem_append_right _ hcx)
    rw [hClosed]
    exact ⟨made, { h with slots := hSlots, guards := (h.guards.insert _ hLeft).erase _ }⟩

end Drawn

theorem drawn_initial (byRequest : Bool) (environment : Surroundings) :
    Drawn (World.initial byRequest environment : World β) := by
  refine ⟨[.root], ?_⟩
  constructor
  case upwards => exact .root _
  case global => exact Propagator.derives_noop
  all_goals exact fun _ hx => absurd hx List.not_mem_nil

end Session

end SpanFlow
