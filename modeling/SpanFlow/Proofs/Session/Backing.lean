import SpanFlow.Proofs.Context.Derivation
import SpanFlow.Proofs.Recording.Handles
import SpanFlow.Session.World

/-!
# Sessions and their handles

A session has its handles in names, slots, guards, work and so on. An estate backs a session if the
same has happened in both and the estate has a handle for all that the session holds. The session
may then do what its handles allow: an act of the session is an act of the estate, and when the
session settles, the estate hands on just what the session still holds.

That a session has no handle which its estate lacks is the invariant. It is stated for one kind of
holding after the other, so that a change of one kind leaves the others alone.

## Main results

* `BackedBy.act`, `BackedBy.settle`: acting and settling are moves of the estate.
* `BackedBy.openGuard`, `BackedBy.closeGuard`: scopes take no handle that was not there.
* `exists_held_settle`: a session that has settled holds what its estate holds.
-/

namespace SpanFlow

open Telemetry

namespace Estate

/-- An estate has a handle for what something holds. A context is to be well formed, because what a
context that is derived from it carries could not be told otherwise. -/
structure Backs (E : Estate) (h : Holding) : Prop where
  wellFormed : ∀ cx, h = .context cx → cx.WellFormed
  span : ∀ id, h.span? = some id → id ∈ reachedSpans E.held
  provider : ∀ p, h.provider? = some p → p ∈ reachedProviders E.held

theorem backs_of_mem {E : Estate} {h : Holding} (hMem : h ∈ E.held)
    (hForm : ∀ cx, h = .context cx → cx.WellFormed) : E.Backs h where
  wellFormed := hForm
  span _ hSpan := List.mem_filterMap.2 ⟨h, hMem, hSpan⟩
  provider _ hProvider := List.mem_filterMap.2 ⟨h, hMem, hProvider⟩

theorem backs_root {E : Estate} : E.Backs (.context .root) where
  wellFormed _ hSame := Holding.context.inj hSame ▸ Context.wellFormed_root
  span _ hSpan := by
    simp [Holding.span?, Context.activeSpan?, Context.binding?, Context.root] at hSpan
  provider _ hProvider := nomatch hProvider

namespace Backs

variable {E : Estate} {cx : Context}

/-- Whoever has a handle to a provider can have one to a tracer of it. -/
theorem tracer {p : Nat} (h : E.Backs (.provider p)) (name : String) :
    E.Backs (.tracer ⟨name, p⟩) where
  wellFormed _ hSame := nomatch hSame
  span _ hSpan := nomatch hSpan
  provider other hOther := h.provider other hOther

theorem mono {E' : Estate} {h : Holding} (hBacks : E.Backs h)
    (hHeld : ∀ x ∈ E.held, x ∈ E'.held) : E'.Backs h where
  wellFormed := hBacks.wellFormed
  span id hSpan := by
    obtain ⟨x, hx, hReached⟩ := List.mem_filterMap.1 (hBacks.span id hSpan)
    exact List.mem_filterMap.2 ⟨x, hHeld x hx, hReached⟩
  provider p hProvider := by
    obtain ⟨x, hx, hReached⟩ := List.mem_filterMap.1 (hBacks.provider p hProvider)
    exact List.mem_filterMap.2 ⟨x, hHeld x hx, hReached⟩

/-- Deriving needs no handle but one to what the new binding carries. -/
theorem derive (h : E.Backs (.context cx)) {b : Binding}
    (hb : ∀ s id, b.span? = some s → s.span? = some id → id ∈ reachedSpans E.held) (id key : Nat) :
    E.Backs (.context (cx.derive id key b)) where
  wellFormed _ hSame :=
    Holding.context.inj hSame ▸ Context.wellFormed_derive (h.wellFormed cx rfl) id key b
  span i hSpan := by
    have hOld := h.span i
    simp only [Holding.span?, Context.activeSpan?_eq_bind] at hOld hSpan
    rw [Context.binding?_derive (h.wellFormed cx rfl)] at hSpan
    split at hSpan
    · obtain ⟨s, hs, hi⟩ := Option.bind_eq_some_iff.1 hSpan
      exact hb s i hs hi
    · exact hOld hSpan
  provider _ hProvider := nomatch hProvider

theorem withText (h : E.Backs (.context cx)) (id key : Nat) (s : String) :
    E.Backs (.context (cx.withValue id key (.text s))) :=
  h.derive (fun _ _ hSpan => by cases hSpan) id key

theorem withShared (h : E.Backs (.context cx)) {b : Binding} (hb : b.span? = none) (id key : Nat) :
    E.Backs (.context (cx.withShared id key b)) := by
  have hNew : E.Backs (.context (cx.derive id key b)) :=
    h.derive (fun _ _ hSpan => by rw [hb] at hSpan; cases hSpan) id key
  unfold Context.withShared
  split
  · split
    · exact h
    · exact hNew
  · exact hNew

theorem withSpan (h : E.Backs (.context cx)) {active : ActiveSpan}
    (hActive : ∀ i, active.span? = some i → i ∈ reachedSpans E.held) (id : Nat) :
    E.Backs (.context (cx.withSpan id active)) := by
  refine h.derive (fun s i hs hi => hActive i ?_) id _
  cases hs
  exact hi

theorem withRemote (h : E.Backs (.context cx)) (id : Nat) (sc : SpanContext) :
    E.Backs (.context (cx.withRemote id sc)) :=
  h.withSpan (fun _ hNone => by cases hNone) id

end Backs

end Estate

namespace Assoc

variable {κ α : Type}

/-- Every value of a map has a property. -/
def All (P : α → Prop) (m : Assoc κ α) : Prop := ∀ x ∈ m, P x.2

variable [DecidableEq κ] {m : Assoc κ α} {P : α → Prop}

theorem All.insert (h : All P m) (k : κ) {v : α} (hv : P v) : All P (Assoc.insert m k v) := by
  intro x hx
  rcases mem_insert.1 hx with rfl | ⟨hOld, -⟩
  · exact hv
  · exact h x hOld

theorem All.erase (h : All P m) (k : κ) : All P (Assoc.erase m k) :=
  fun x hx => h x (mem_erase.1 hx).1

theorem All.of_get? (h : All P m) {k : κ} {v : α} (hGet : get? m k = some v) : P v := by
  obtain ⟨x, hFind, rfl⟩ := Option.map_eq_some_iff.1 hGet
  exact h x (List.mem_of_find?_eq_some hFind)

end Assoc

/-- A propagator reads no span into a context but such as live elsewhere. -/
def Propagator.BringsNoSpan (p : Propagator) : Prop :=
  ∀ (E : Estate) (reader : Extractor) (cx : Context) (next : Nat),
    E.Backs (.context cx) → E.Backs (.context (p.extract reader cx next).context)

namespace Session

variable {β : Type}

/-- What is laid down about how an estate comes about: from which one, and which providers may be
asked to shut down. -/
structure Course where
  origin : Estate
  asked : Nat → Prop

/-- From nothing, and whatever is asked. -/
def Course.any : Course := ⟨.empty, fun _ => True⟩

/-- An estate that can come about on a course backs a session. -/
structure BackedBy (C : Course) (E : Estate) (w : World β) : Prop where
  came : ∃ moves, E = C.origin.run moves
  asked : ∀ p, Act.shutdown p ∈ E.acts → C.asked p
  telemetry : w.telemetry = E.telemetry
  contexts : w.contexts.All fun cx => E.Backs (.context cx)
  slots : w.slots.All fun cx => E.Backs (.context cx)
  guards : w.guards.All fun g => ∀ cx ∈ g.contexts, E.Backs (.context cx)
  works : w.works.All fun x => E.Backs (.context x.context)
  executors : w.executors.All fun x => ∀ cx ∈ x.context?, E.Backs (.context cx)
  futures : w.futures.All fun x => ∀ cx ∈ x.context?, E.Backs (.context cx)
  streams : w.streams.All fun x => ∀ cx ∈ x.context?, E.Backs (.context cx)
  sinks : w.sinks.All fun x => ∀ cx ∈ x.context?, E.Backs (.context cx)
  queue : ∀ x ∈ w.queue, E.Backs (.context x.1)
  pins : w.pins.All E.Backs
  spans : w.spans.All fun id => E.Backs (.span id)
  tracers : w.tracers.All fun t => E.Backs (.tracer t)
  providers : w.providers.All fun id => E.Backs (.provider id)
  shared : w.shared.All fun b => b.span? = none
  exporters : w.exporters.All (· < w.telemetry.exporters.length)
  propagators : w.propagators.All Propagator.BringsNoSpan
  global : w.global.BringsNoSpan

/-- Some estate backs a session. -/
def Backed (C : Course) (w : World β) : Prop := ∃ E, BackedBy C E w

variable {C : Course}

namespace World

theorem mem_contextsHeld {w : World β} {cx : Context} :
    cx ∈ w.contextsHeld ↔
      (∃ x ∈ w.contexts, x.2 = cx) ∨ (∃ x ∈ w.slots, x.2 = cx) ∨
        (∃ x ∈ w.guards, cx ∈ x.2.contexts) ∨ (∃ x ∈ w.works, x.2.context = cx) ∨
        (∃ x ∈ w.executors, cx ∈ x.2.context?) ∨
        (∃ x ∈ w.futures, cx ∈ x.2.context?) ∨
        (∃ x ∈ w.streams, cx ∈ x.2.context?) ∨
        (∃ x ∈ w.sinks, cx ∈ x.2.context?) ∨ ∃ x ∈ w.queue, x.1 = cx := by
  simp only [contextsHeld, List.mem_append, List.mem_map, List.mem_flatMap, List.mem_filterMap,
    Option.mem_def, or_assoc]

theorem mem_holdings {w : World β} {h : Holding} :
    h ∈ w.holdings ↔
      (∃ cx ∈ w.contextsHeld, .context cx = h) ∨ (∃ x ∈ w.pins, x.2 = h) ∨
        (∃ x ∈ w.spans, .span x.2 = h) ∨ (∃ x ∈ w.tracers, .tracer x.2 = h) ∨
        ∃ x ∈ w.providers, .provider x.2 = h := by
  simp only [holdings, List.mem_append, List.mem_map, or_assoc]

end World

namespace BackedBy

variable {E : Estate} {w : World β}

/-- What a session holds, its estate has handles for. -/
theorem backs (h : BackedBy C E w) {x : Holding} (hx : x ∈ w.holdings) : E.Backs x := by
  rcases World.mem_holdings.1 hx with ⟨cx, hcx, rfl⟩ | hOther
  · rcases World.mem_contextsHeld.1 hcx with ⟨y, hy, rfl⟩ | ⟨y, hy, rfl⟩ | ⟨y, hy, hIn⟩ |
      ⟨y, hy, rfl⟩ | ⟨y, hy, hIn⟩ | ⟨y, hy, hIn⟩ | ⟨y, hy, hIn⟩ | ⟨y, hy, hIn⟩ | ⟨y, hy, rfl⟩
    · exact h.contexts y hy
    · exact h.slots y hy
    · exact h.guards y hy cx hIn
    · exact h.works y hy
    · exact h.executors y hy cx hIn
    · exact h.futures y hy cx hIn
    · exact h.streams y hy cx hIn
    · exact h.sinks y hy cx hIn
    · exact h.queue y hy
  · rcases hOther with ⟨y, hy, rfl⟩ | ⟨y, hy, rfl⟩ | ⟨y, hy, rfl⟩ | ⟨y, hy, rfl⟩
    · exact h.pins y hy
    · exact h.spans y hy
    · exact h.tracers y hy
    · exact h.providers y hy

theorem reachesWithin_holdings (h : BackedBy C E w) : reachesWithin w.holdings E.held = true := by
  refine reachesWithin_iff.2 ⟨fun id hReached => ?_, fun p hReached => ?_⟩
  · obtain ⟨x, hx, hSpan⟩ := List.mem_filterMap.1 hReached
    exact (h.backs hx).span id hSpan
  · obtain ⟨x, hx, hProvider⟩ := List.mem_filterMap.1 hReached
    exact (h.backs hx).provider p hProvider

/-- An estate that has moved on still backs a session if it has handles for its holdings. -/
theorem moved (h : BackedBy C E w) (moves : List Move) {t : Telemetry}
    (hTelemetry : t = (E.run moves).telemetry) (hBacks : ∀ x ∈ w.holdings, (E.run moves).Backs x)
    (hAsked : ∀ p, Act.shutdown p ∈ (E.run moves).acts → Act.shutdown p ∈ E.acts ∨ C.asked p) :
    BackedBy C (E.run moves) { w with telemetry := t } := by
  obtain ⟨before, hBefore⟩ := h.came
  have hLength : w.telemetry.exporters.length ≤ t.exporters.length := by
    obtain ⟨others, hOthers⟩ := Estate.acts_run E moves
    have hSound := (accounts_ledger E.acts).agrees.sound
    rw [h.telemetry, hTelemetry, Estate.telemetry, Estate.telemetry, hOthers, afterAll_append]
    exact length_exporters_afterAll hSound others
  have hContext : ∀ cx ∈ w.contextsHeld, (E.run moves).Backs (.context cx) :=
    fun cx hcx => hBacks _ (World.mem_holdings.2 (Or.inl ⟨cx, hcx, rfl⟩))
  simp only [World.mem_contextsHeld] at hContext
  simp only [World.mem_holdings] at hBacks
  constructor
  case came =>
    exact ⟨before ++ moves, by rw [hBefore, Estate.run_append]⟩
  case asked => exact fun p hp => (hAsked p hp).elim (h.asked p) id
  case telemetry => exact hTelemetry
  case contexts => exact fun x hx => hContext _ (.inl ⟨x, hx, rfl⟩)
  case slots => exact fun x hx => hContext _ (.inr (.inl ⟨x, hx, rfl⟩))
  case guards => exact fun x hx cx hcx => hContext _ (.inr (.inr (.inl ⟨x, hx, hcx⟩)))
  case works => exact fun x hx => hContext _ (.inr (.inr (.inr (.inl ⟨x, hx, rfl⟩))))
  case executors =>
    exact fun x hx cx hcx => hContext _ (.inr (.inr (.inr (.inr (.inl ⟨x, hx, hcx⟩)))))
  case futures =>
    exact fun x hx cx hcx => hContext _ (.inr (.inr (.inr (.inr (.inr (.inl ⟨x, hx, hcx⟩))))))
  case streams =>
    exact fun x hx cx hcx =>
      hContext _ (.inr (.inr (.inr (.inr (.inr (.inr (.inl ⟨x, hx, hcx⟩)))))))
  case sinks =>
    exact fun x hx cx hcx =>
      hContext _ (.inr (.inr (.inr (.inr (.inr (.inr (.inr (.inl ⟨x, hx, hcx⟩))))))))
  case queue =>
    exact fun x hx =>
      hContext _ (.inr (.inr (.inr (.inr (.inr (.inr (.inr (.inr ⟨x, hx, rfl⟩))))))))
  case pins => exact fun x hx => hBacks _ (.inr (.inl ⟨x, hx, rfl⟩))
  case spans => exact fun x hx => hBacks _ (.inr (.inr (.inl ⟨x, hx, rfl⟩)))
  case tracers => exact fun x hx => hBacks _ (.inr (.inr (.inr (.inl ⟨x, hx, rfl⟩))))
  case providers => exact fun x hx => hBacks _ (.inr (.inr (.inr (.inr ⟨x, hx, rfl⟩))))
  case shared => exact h.shared
  case exporters => exact fun x hx => Nat.lt_of_lt_of_le (h.exporters x hx) hLength
  case propagators => exact h.propagators
  case global => exact h.global

/-! ## Moves of the estate -/

/-- An act that is open to the estate, and no shutdown that may not be asked for, is one of the
session. -/
theorem act (h : BackedBy C E w) {a : Act} (hOpen : a.isOpenTo E.held = true)
    (hAsked : ∀ p, a = .shutdown p → C.asked p := by rintro _ ⟨⟩) :
    BackedBy C (E.step (.act a)) { w with telemetry := w.telemetry.after a } := by
  rw [← Estate.run_singleton]
  refine h.moved [.act a] ?_ (fun x hx => (h.backs hx).mono fun y hy => ?_) fun p hp => ?_
  · rw [h.telemetry, Estate.run_singleton, Estate.telemetry_act hOpen]
  · rw [Estate.run_singleton, Estate.step_act hOpen]
    exact List.mem_append_left _ hy
  · rw [Estate.run_singleton, Estate.step_act hOpen] at hp
    refine (List.mem_append.1 hp).imp_right fun hSame => hAsked p ?_
    exact (List.mem_singleton.1 hSame).symm

/-- What a session lets go, its estate hands on no longer. -/
theorem settle (h : BackedBy C E w) : BackedBy C (E.step (.hand w.holdings)) w.settle := by
  have hWithin := h.reachesWithin_holdings
  rw [← Estate.run_singleton]
  refine h.moved [.hand w.holdings] ?_ (fun x hx => ?_) fun p hp => ?_
  · rw [h.telemetry, Estate.run_singleton, Estate.telemetry_hand hWithin]
  · refine Estate.backs_of_mem ?_ (h.backs hx).wellFormed
    rw [Estate.run_singleton, Estate.step_hand hWithin]
    exact hx
  · rw [Estate.run_singleton, Estate.step_hand hWithin] at hp
    exact (List.mem_append.1 hp).imp_right fun hReleased =>
      absurd hReleased shutdown_not_mem_releases

/-- An act takes no handle away. -/
theorem backs_act {a : Act} (hOpen : a.isOpenTo E.held = true) {x : Holding} (hx : E.Backs x) :
    (E.step (.act a)).Backs x := by
  refine hx.mono fun y hy => ?_
  rw [Estate.step_act hOpen]
  exact List.mem_append_left _ hy

/-- An act that adds a span brings a handle to it. -/
theorem backs_newSpan (h : BackedBy C E w) {a : Act} (hOpen : a.isOpenTo E.held = true)
    (hNew : (w.telemetry.newSpan? a).isSome = true) :
    (E.step (.act a)).Backs (.span w.telemetry.spans.length) := by
  obtain ⟨s, hs⟩ := Option.isSome_iff_exists.1 hNew
  refine Estate.backs_of_mem ?_ (fun _ hSame => nomatch hSame)
  rw [Estate.step_act hOpen, ← h.telemetry, gains, hs]
  simp

/-- An act that adds a provider brings a handle to it. -/
theorem backs_newProvider (h : BackedBy C E w) {a : Act} (hOpen : a.isOpenTo E.held = true)
    (hNew : (w.telemetry.newProvider? a).isSome = true) :
    (E.step (.act a)).Backs (.provider w.telemetry.providers.length) := by
  obtain ⟨p, hp⟩ := Option.isSome_iff_exists.1 hNew
  refine Estate.backs_of_mem ?_ (fun _ hSame => nomatch hSame)
  rw [Estate.step_act hOpen, ← h.telemetry, gains, hp]
  simp

/-! ## Flows and scopes -/

theorem backs_slot (h : BackedBy C E w) (slot : Slot) :
    E.Backs (.context (w.slots.current slot)) := by
  unfold Slots.current
  cases hGet : Assoc.get? w.slots slot with
  | none => exact Estate.backs_root
  | some cx => exact h.slots.of_get? hGet

theorem backs_current (h : BackedBy C E w) (flow : Nat) : E.Backs (.context (w.current flow)) :=
  h.backs_slot _

theorem fresh (h : BackedBy C E w) : BackedBy C E w.fresh.2 := { h with }

theorem modifyFlow (h : BackedBy C E w) (id : Nat) (f : Flow → Flow) :
    BackedBy C E (w.modifyFlow id f) := { h with }

theorem beginFlow (h : BackedBy C E w) : BackedBy C E w.beginFlow.2 := { h with }

theorem pin (h : BackedBy C E w) {x : Holding} (hx : E.Backs x) : BackedBy C E (w.pin x).2 :=
  { h with pins := h.pins.insert _ hx }

/-- Attaching makes copies of the context attached and of the one that was current. -/
theorem openGuard (h : BackedBy C E w) (flow : Nat) {cx : Context} (hcx : E.Backs (.context cx)) :
    BackedBy C E (w.openGuard flow cx).2 := by
  have hSlots : (w.slots.attach (w.slotOf flow) cx).All fun cx => E.Backs (.context cx) := by
    unfold Slots.attach
    split
    · exact h.slots
    · exact h.slots.insert _ hcx
  have hGuard : ∀ other ∈ (Guard.of (w.current flow) cx).contexts, E.Backs (.context other) := by
    intro other hOther
    unfold Guard.of at hOther
    split at hOther
    · simp only [Guard.contexts, Option.toList_none, List.nil_append, List.mem_singleton] at hOther
      exact hOther ▸ hcx
    · simp only [Guard.contexts, Option.toList_some, List.cons_append, List.nil_append,
        List.mem_cons, List.not_mem_nil, or_false] at hOther
      rcases hOther with rfl | rfl
      · exact h.backs_current flow
      · exact hcx
  exact { h with slots := hSlots, guards := h.guards.insert _ hGuard }

end BackedBy

namespace Backed

variable {w : World β}

theorem settle (h : Backed C w) : Backed C w.settle := by
  obtain ⟨E, hE⟩ := h
  exact ⟨_, hE.settle⟩

/-- Acts that take no handle can be done in every session. -/
theorem act (h : Backed C w) {a : Act} (hOpen : ∀ held, a.isOpenTo held = true) :
    Backed C { w with telemetry := w.telemetry.after a } := by
  obtain ⟨E, hE⟩ := h
  refine ⟨_, hE.act (hOpen E.held) ?_⟩
  rintro p rfl
  cases hOpen []

theorem report (h : Backed C w) (d : Diagnostic) : Backed C (w.report d) :=
  h.act (a := .report d) fun _ => rfl

theorem takeLog (h : Backed C w) : Backed C w.takeLog.2 := h.act (a := .takeLog) fun _ => rfl

theorem endFlow (h : Backed C w) (id : Nat) : Backed C (w.endFlow id) := by
  obtain ⟨E, hE⟩ := h
  exact settle ⟨E, { hE with slots := hE.slots.erase _ }⟩

theorem unpin (h : Backed C w) (id : Nat) : Backed C (w.unpin id) := by
  obtain ⟨E, hE⟩ := h
  exact settle ⟨E, { hE with pins := hE.pins.erase _ }⟩

/-- Closing moves contexts from the guard to the slot and lets go what is left. -/
theorem closeGuard (h : Backed C w) (flow id : Nat) : Backed C (w.closeGuard flow id) := by
  unfold World.closeGuard
  cases hGuard : Assoc.get? w.guards id with
  | none => exact h
  | some g =>
    dsimp only
    have hReported : ∀ w' : World β, Backed C w' → w'.guards = w.guards → ∀ slot,
        Backed C { w' with
          slots := w'.slots.close slot g
          guards := Assoc.insert w'.guards id ⟨none, g.attached⟩ } := by
      rintro w' ⟨E, hE⟩ hSame slot
      have hContexts := hE.guards.of_get? (hSame ▸ hGuard)
      have hSlots : (w'.slots.close slot g).All fun cx => E.Backs (.context cx) := by
        unfold Slots.close
        split
        · exact hE.slots
        · rename_i previous hPrevious
          exact hE.slots.insert _ (hContexts previous (by simp [Guard.contexts, hPrevious]))
      have hAttached : ∀ cx ∈ (⟨none, g.attached⟩ : Guard).contexts, E.Backs (.context cx) := by
        intro cx hcx
        exact hContexts cx (List.mem_append_right _ hcx)
      exact ⟨E, { hE with slots := hSlots, guards := hE.guards.insert _ hAttached }⟩
    have hClosed : ∀ w' : World β, Backed C w' → Backed C
        { w'.settle with guards := Assoc.erase w'.settle.guards id }.settle := by
      intro w' hw'
      obtain ⟨E, hE⟩ := hw'.settle
      exact settle ⟨E, { hE with guards := hE.guards.erase _ }⟩
    split
    · exact hClosed _ (hReported _ (h.report _) rfl _)
    · exact hClosed _ (hReported _ h rfl _)

end Backed

/-! ## Names -/

theorem BackedBy.nameContext {E : Estate} {w : World β} (h : BackedBy C E w) (name : String)
    {cx : Context} (hcx : E.Backs (.context cx)) : Backed C (w.nameContext name cx) :=
  Backed.settle ⟨E, { h with contexts := h.contexts.insert _ hcx }⟩

theorem BackedBy.nameSpan {E : Estate} {w : World β} (h : BackedBy C E w) (name : String)
    {id : Nat} (hid : E.Backs (.span id)) : Backed C (w.nameSpan name id) :=
  Backed.settle ⟨E, { h with spans := h.spans.insert _ hid }⟩

/-! ## Beginnings and results -/

theorem backed_initial (asked : Nat → Prop) (byRequest : Bool) (environment : Surroundings) :
    Backed ⟨.empty, asked⟩ (World.initial byRequest environment : World β) := by
  refine ⟨Estate.empty.run [.act (.elapse environment.clock)], ?_⟩
  constructor
  case came => exact ⟨_, rfl⟩
  case asked =>
    intro p hp
    cases List.mem_singleton.1 hp
  case telemetry => rfl
  case global =>
    intro E reader cx next hcx
    rw [World.initial, Propagator.extract]
    exact hcx
  all_goals exact fun _ hx => absurd hx List.not_mem_nil

/-- What a session holds after it has settled is just what its estate holds, and the same has
happened in both. -/
theorem exists_held_settle {w : World β} (h : Backed .any w) :
    ∃ moves, (Estate.empty.run moves).telemetry = w.settle.telemetry ∧
      (Estate.empty.run moves).held = w.settle.holdings := by
  obtain ⟨E, hE⟩ := h
  have hSettled := hE.settle
  obtain ⟨moves, hMoves⟩ := hSettled.came
  refine ⟨moves, ?_, ?_⟩
  · rw [hSettled.telemetry, hMoves]
    rfl
  · show (Course.any.origin.run moves).held = _
    rw [← hMoves, Estate.step_hand hE.reachesWithin_holdings]
    rfl

end Session

end SpanFlow
