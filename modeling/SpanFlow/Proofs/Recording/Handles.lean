import SpanFlow.Proofs.Recording.Ledger
import SpanFlow.Proofs.Recording.Releases

/-!
# Handles

Spans and providers live as long as there are handles to them. An estate is all the handles there
are, together with what has happened so far. It changes in two ways. Somebody acts: a span is
started through a handle to its provider, and a handle to it comes into being. Or handles change
hands: they are copied, overwritten, put into contexts, or let go. What is left without a handle is
released at once.

The handles of a session, in its variables, guards and slots and in the work that it keeps, are
those of an estate.

## Main results

* `Kept.act`, `Kept.hand`: what one move keeps.
* `Kept.run`: what is released is what has no handle, in every estate that can come about.
-/

namespace SpanFlow

open Telemetry

namespace Telemetry

/-- The handles that an act brings. -/
def gains (t : Telemetry) (a : Act) : List Holding :=
  (t.newSpan? a).toList.map (fun _ => .span t.spans.length) ++
    (t.newProvider? a).toList.map fun _ => .provider t.providers.length

/-- Whether an act can be done by somebody with these handles. Starting a span and shutting a
provider down take a handle to the provider; releases are not done by hand. -/
def Act.isOpenTo (held : List Holding) : Act → Bool
  | start tracer _ _ => tracer.provider ∈ reachedProviders held
  | shutdown p => p ∈ reachedProviders held
  | releaseSpan _ | releaseProvider _ => false
  | _ => true

end Telemetry

/-- Whether all that some holdings reach is reached by others. -/
def reachesWithin (held others : List Holding) : Bool :=
  (reachedSpans held).all (· ∈ reachedSpans others) &&
    (reachedProviders held).all (· ∈ reachedProviders others)

theorem reachesWithin_iff {held others : List Holding} :
    reachesWithin held others = true ↔
      (∀ id ∈ reachedSpans held, id ∈ reachedSpans others) ∧
        ∀ p ∈ reachedProviders held, p ∈ reachedProviders others := by
  simp [reachesWithin]

/-- What has happened, and what is held now. -/
structure Estate where
  acts : List Act
  held : List Holding

/-- A change of an estate: an act, or a redistribution after which just these handles are left. -/
inductive Move where
  | act (a : Act)
  | hand (held : List Holding)

namespace Estate

/-- Nothing has happened and nothing is held. -/
def empty : Estate := ⟨[], []⟩

/-- What the acts have led to. -/
def telemetry (E : Estate) : Telemetry := Telemetry.empty.afterAll E.acts

/-- An estate after a move; one that is not possible changes nothing. -/
def step (E : Estate) : Move → Estate
  | .act a =>
    if a.isOpenTo E.held then ⟨E.acts ++ [a], E.held ++ E.telemetry.gains a⟩ else E
  | .hand held =>
    if reachesWithin held E.held then ⟨E.acts ++ E.telemetry.releases held, held⟩ else E

/-- An estate after moves, one after the other. -/
def run (E : Estate) (moves : List Move) : Estate := moves.foldl step E

/-- Whether there is a handle to a provider: one to the provider itself or to a tracer of it, or one
to a span of it, by itself or in a context. -/
def HasHandle (E : Estate) (p : Nat) : Prop :=
  p ∈ reachedProviders E.held ∨
    ∃ id s, E.telemetry.spans[id]? = some s ∧ s.provider? = some p ∧ id ∈ reachedSpans E.held

theorem run_singleton (E : Estate) (m : Move) : E.run [m] = E.step m := rfl

theorem run_append (E : Estate) (moves others : List Move) :
    E.run (moves ++ others) = (E.run moves).run others := List.foldl_append

theorem step_act {E : Estate} {a : Act} (h : a.isOpenTo E.held = true) :
    E.step (.act a) = ⟨E.acts ++ [a], E.held ++ E.telemetry.gains a⟩ := if_pos h

theorem step_hand {E : Estate} {held : List Holding} (h : reachesWithin held E.held = true) :
    E.step (.hand held) = ⟨E.acts ++ E.telemetry.releases held, held⟩ := if_pos h

theorem telemetry_act {E : Estate} {a : Act} (h : a.isOpenTo E.held = true) :
    (E.step (.act a)).telemetry = E.telemetry.after a := by
  rw [step_act h, telemetry, afterAll_append]
  rfl

/-- To redistribute is to settle. -/
theorem telemetry_hand {E : Estate} {held : List Holding}
    (h : reachesWithin held E.held = true) :
    (E.step (.hand held)).telemetry = E.telemetry.settle held := by
  rw [step_hand h, telemetry, afterAll_append, settle_eq_afterAll]
  rfl

/-- What has happened stays so. -/
theorem acts_run (E : Estate) (moves : List Move) :
    ∃ others, (E.run moves).acts = E.acts ++ others := by
  induction moves generalizing E with
  | nil => exact ⟨[], (List.append_nil _).symm⟩
  | cons m rest ih =>
    obtain ⟨later, hLater⟩ := ih (E.step m)
    have hStep : ∃ others, (E.step m).acts = E.acts ++ others := by
      cases m with
      | act a =>
        unfold step
        dsimp only
        split
        · exact ⟨[a], rfl⟩
        · exact ⟨[], (List.append_nil _).symm⟩
      | hand held =>
        unfold step
        dsimp only
        split
        · exact ⟨_, rfl⟩
        · exact ⟨[], (List.append_nil _).symm⟩
    obtain ⟨first, hFirst⟩ := hStep
    refine ⟨first ++ later, ?_⟩
    show ((E.step m).run rest).acts = _
    rw [hLater, hFirst, List.append_assoc]

/-! ## What is kept -/

/-- The last handle to a provider went at some point: all its spans had ended by then, and the
provider was not shut down. -/
def LetGo (acts : List Act) (p : Nat) : Prop :=
  ∃ before after, acts = before ++ .releaseProvider p :: after ∧
    p < (Telemetry.empty.afterAll before).providers.length ∧ p ∉ (ledger before).shut ∧
    ∀ id d, (ledger before).born[id]? = some (some (p, d)) → id ∈ (ledger before).ended

/-- Spans and providers are released if and only if there is no handle to them, and providers are
closed by explicit shutdowns and by releases alone. -/
structure Kept (E : Estate) : Prop where
  span_held : ∀ (id : Nat) (s : Span), E.telemetry.spans[id]? = some s →
    (s.released = false ↔ id ∈ reachedSpans E.held)
  span_lt : ∀ id ∈ reachedSpans E.held, id < E.telemetry.spans.length
  provider_held : ∀ (p : Nat) (q : Provider), E.telemetry.providers[p]? = some q →
    (q.released = false ↔ E.HasHandle p)
  provider_lt : ∀ p ∈ reachedProviders E.held, p < E.telemetry.providers.length
  provider_of_span : ∀ (id p : Nat) (s : Span), E.telemetry.spans[id]? = some s →
    s.provider? = some p → p < E.telemetry.providers.length
  ended : ∀ (id : Nat) (s : Span), E.telemetry.spans[id]? = some s → s.released = true →
    id ∈ (ledger E.acts).ended
  asked_lt : ∀ p, Act.shutdown p ∈ E.acts → p < E.telemetry.providers.length
  closed : ∀ (p : Nat) (q : Provider), E.telemetry.providers[p]? = some q →
    (q.closed = true ↔ Act.shutdown p ∈ E.acts ∨ q.released = true)
  let_go : ∀ (p : Nat) (q : Provider), E.telemetry.providers[p]? = some q → q.released = true →
    Act.shutdown p ∉ E.acts → LetGo E.acts p

theorem kept_empty : Kept empty := by
  constructor <;> simp [empty, telemetry, Telemetry.empty, reachedSpans, reachedProviders]

theorem LetGo.append {acts : List Act} {p : Nat} (h : LetGo acts p) (others : List Act) :
    LetGo (acts ++ others) p := by
  obtain ⟨before, after, rfl, hRest⟩ := h
  exact ⟨before, after ++ others, by simp, hRest⟩

/-! ## Acts -/

theorem mem_reachedSpans_gains {held : List Holding} {t : Telemetry} {a : Act} {id : Nat} :
    id ∈ reachedSpans (held ++ t.gains a) ↔
      id ∈ reachedSpans held ∨ (id = t.spans.length ∧ (t.newSpan? a).isSome = true) := by
  unfold reachedSpans gains
  cases t.newSpan? a <;> cases t.newProvider? a <;>
    simp [Holding.span?, List.filterMap_append, eq_comm]

theorem mem_reachedProviders_gains {held : List Holding} {t : Telemetry} {a : Act} {p : Nat} :
    p ∈ reachedProviders (held ++ t.gains a) ↔
      p ∈ reachedProviders held ∨ (p = t.providers.length ∧ (t.newProvider? a).isSome = true) := by
  unfold reachedProviders gains
  cases t.newSpan? a <;> cases t.newProvider? a <;>
    simp [Holding.provider?, List.filterMap_append, eq_comm]

section Act

variable {E : Estate} {a : Act} (hOpen : a.isOpenTo E.held = true)
include hOpen

theorem ne_releaseSpan (id : Nat) : a ≠ .releaseSpan id := by
  rintro rfl
  cases hOpen

theorem ne_releaseProvider (p : Nat) : a ≠ .releaseProvider p := by
  rintro rfl
  cases hOpen

/-- A new span has a provider that there is a handle to. -/
theorem reached_of_newSpan? {s : Span} {p : Nat} (hNew : E.telemetry.newSpan? a = some s)
    (hProvider : s.provider? = some p) : p ∈ reachedProviders E.held := by
  obtain ⟨tracer, name, cx, rfl, rfl⟩ := provider?_newSpan? hNew hProvider
  simpa [Act.isOpenTo] using hOpen

/-- An act takes no handle to a provider away, and brings none to one that was there before. -/
theorem hasHandle_act {p : Nat} (hp : p < E.telemetry.providers.length) :
    (E.step (.act a)).HasHandle p ↔ E.HasHandle p := by
  unfold HasHandle
  rw [telemetry_act hOpen, step_act hOpen]
  constructor
  · rintro (hReached | ⟨id, s', hGet, hProvider, hReached⟩)
    · rcases mem_reachedProviders_gains.1 hReached with hOld | ⟨hNew, -⟩
      · exact Or.inl hOld
      · omega
    · rcases span_after_cases hGet with ⟨s, hOld, rfl⟩ | ⟨-, hNew⟩
      · obtain ⟨hLt, -⟩ := List.getElem?_eq_some_iff.1 hOld
        rw [provider?_onSpan] at hProvider
        rcases mem_reachedSpans_gains.1 hReached with hKept | ⟨hNew, -⟩
        · exact Or.inr ⟨id, s, hOld, hProvider, hKept⟩
        · omega
      · exact Or.inl (reached_of_newSpan? hOpen hNew hProvider)
  · rintro (hReached | ⟨id, s, hGet, hProvider, hReached⟩)
    · exact Or.inl (mem_reachedProviders_gains.2 (Or.inl hReached))
    · refine Or.inr ⟨id, a.onSpan id s, span_after hGet a, ?_, ?_⟩
      · rw [provider?_onSpan, hProvider]
      · exact mem_reachedSpans_gains.2 (Or.inl hReached)

/-- An act keeps what is kept. -/
theorem Kept.act (h : Kept E) : Kept (E.step (.act a)) := by
  have hSpans := length_spans_after E.telemetry a
  have hProviders := length_providers_after E.telemetry a
  have hLedger : ledger (E.step (.act a)).acts = (ledger E.acts).note E.telemetry a := by
    rw [step_act hOpen]
    exact ledger_append E.acts [a]
  constructor
  case span_held =>
    intro id s' hGet
    rw [telemetry_act hOpen] at hGet
    rw [step_act hOpen, mem_reachedSpans_gains]
    rcases span_after_cases hGet with ⟨s, hOld, rfl⟩ | ⟨rfl, hNew⟩
    · obtain ⟨hLt, -⟩ := List.getElem?_eq_some_iff.1 hOld
      rw [released_onSpan (ne_releaseSpan hOpen), h.span_held id s hOld]
      constructor
      · exact Or.inl
      · rintro (hReached | ⟨hNew, -⟩)
        · exact hReached
        · omega
    · simp [(newSpan?_eq_some hNew).2, hNew]
  case span_lt =>
    intro id hReached
    rw [telemetry_act hOpen]
    rw [step_act hOpen] at hReached
    rcases mem_reachedSpans_gains.1 hReached with hOld | ⟨rfl, hNew⟩
    · have hLt := h.span_lt id hOld
      omega
    · obtain ⟨s, hNew⟩ := Option.isSome_iff_exists.1 hNew
      simp [hSpans, hNew]
  case provider_held =>
    intro p q' hGet
    rw [telemetry_act hOpen] at hGet
    rcases provider_after_cases hGet with ⟨q, hOld, rfl⟩ | ⟨rfl, hNew⟩
    · obtain ⟨hLt, -⟩ := List.getElem?_eq_some_iff.1 hOld
      rw [released_onProvider (ne_releaseProvider hOpen), h.provider_held p q hOld,
        hasHandle_act hOpen hLt]
    · refine iff_of_true (newProvider?_eq_some hNew).2.1 (Or.inl ?_)
      rw [step_act hOpen]
      exact mem_reachedProviders_gains.2 (Or.inr ⟨rfl, by rw [hNew]; rfl⟩)
  case provider_lt =>
    intro p hReached
    rw [telemetry_act hOpen]
    rw [step_act hOpen] at hReached
    rcases mem_reachedProviders_gains.1 hReached with hOld | ⟨rfl, hNew⟩
    · have hLt := h.provider_lt p hOld
      omega
    · obtain ⟨q, hNew⟩ := Option.isSome_iff_exists.1 hNew
      simp [hProviders, hNew]
  case provider_of_span =>
    intro id p s' hGet hProvider
    rw [telemetry_act hOpen] at hGet ⊢
    rcases span_after_cases hGet with ⟨s, hOld, rfl⟩ | ⟨-, hNew⟩
    · rw [provider?_onSpan] at hProvider
      have hLt := h.provider_of_span id p s hOld hProvider
      omega
    · have hLt := h.provider_lt p (reached_of_newSpan? hOpen hNew hProvider)
      omega
  case ended =>
    intro id s' hGet hReleased
    rw [telemetry_act hOpen] at hGet
    rw [hLedger, mem_ended_note]
    rcases span_after_cases hGet with ⟨s, hOld, rfl⟩ | ⟨-, hNew⟩
    · rw [released_onSpan (ne_releaseSpan hOpen)] at hReleased
      exact Or.inl (h.ended id s hOld hReleased)
    · rw [(newSpan?_eq_some hNew).2] at hReleased
      cases hReleased
  case asked_lt =>
    intro p hAsked
    rw [telemetry_act hOpen]
    rw [step_act hOpen, List.mem_append, List.mem_singleton] at hAsked
    rcases hAsked with hOld | rfl
    · have hLt := h.asked_lt p hOld
      omega
    · have hLt := h.provider_lt p (by simpa [Act.isOpenTo] using hOpen)
      omega
  case closed =>
    intro p q' hGet
    rw [telemetry_act hOpen] at hGet
    rw [step_act hOpen, List.mem_append, List.mem_singleton]
    have hCloses : a.closes? = some p ↔ Act.shutdown p = a := by
      cases a with
      | shutdown other => simp [Act.closes?, eq_comm]
      | releaseProvider other => exact absurd rfl (ne_releaseProvider hOpen other)
      | _ => simp [Act.closes?]
    rcases provider_after_cases hGet with ⟨q, hOld, rfl⟩ | ⟨rfl, hNew⟩
    · rw [closed_onProvider, released_onProvider (ne_releaseProvider hOpen), h.closed p q hOld,
        hCloses]
      exact or_right_comm
    · obtain ⟨hShut, hReleased, plan, env, rfl⟩ := newProvider?_eq_some hNew
      have hNot : Act.shutdown E.telemetry.providers.length ∉ E.acts := fun hAsked => by
        have hLt := h.asked_lt _ hAsked
        omega
      simp [hShut, hReleased, hNot]
  case let_go =>
    intro p q' hGet hReleased hNot
    rw [telemetry_act hOpen] at hGet
    rw [step_act hOpen] at hNot ⊢
    rcases provider_after_cases hGet with ⟨q, hOld, rfl⟩ | ⟨-, hNew⟩
    · rw [released_onProvider (ne_releaseProvider hOpen)] at hReleased
      have hUnasked : Act.shutdown p ∉ E.acts :=
        fun hAsked => hNot (List.mem_append_left _ hAsked)
      exact (h.let_go p q hOld hReleased hUnasked).append _
    · rw [(newProvider?_eq_some hNew).2.1] at hReleased
      cases hReleased

end Act

/-! ## Redistributions -/

/-- Redistributing asks for no shutdown. -/
theorem shutdown_mem_hand {E : Estate} {held : List Holding} {p : Nat} :
    Act.shutdown p ∈ E.acts ++ E.telemetry.releases held ↔ Act.shutdown p ∈ E.acts := by
  simp [releases, releaseSpans, releaseProviders]

section Hand

variable {E : Estate} {held : List Holding} (h : Kept E)
  (hWithin : reachesWithin held E.held = true)
include h hWithin

/-- After a redistribution, spans are kept just as far as they are reached. -/
theorem span_hand {id : Nat} {s' : Span} (hGet : (E.telemetry.settle held).spans[id]? = some s') :
    ∃ s, E.telemetry.spans[id]? = some s ∧ s'.provider? = s.provider? ∧
      (s'.released = false ↔ id ∈ reachedSpans held) ∧
      (s'.released = true → s.released = true ∨ id ∈ E.telemetry.looseSpans held) := by
  rw [span_settle] at hGet
  obtain ⟨s, hOld, rfl⟩ := Option.map_eq_some_iff.1 hGet
  by_cases hLoose : id ∈ E.telemetry.looseSpans held
  · obtain ⟨-, -, -, hNot⟩ := mem_looseSpans.1 hLoose
    refine ⟨s, hOld, ?_, ?_, fun _ => Or.inr hLoose⟩
    · rw [if_pos hLoose]
      exact Span.provider?_ended s
    · rw [if_pos hLoose]
      simp [Span.afterRelease, hNot]
  · rw [if_neg hLoose]
    refine ⟨s, hOld, rfl, ?_, Or.inl⟩
    constructor
    · intro hKept
      by_cases hReached : id ∈ reachedSpans held
      · exact hReached
      · exact absurd (mem_looseSpans.2 ⟨s, hOld, hKept, hReached⟩) hLoose
    · intro hReached
      exact (h.span_held id s hOld).2 ((reachesWithin_iff.1 hWithin).1 id hReached)

/-- After a redistribution, a provider is kept just as far as there are handles to it. -/
theorem provider_hand {p : Nat} {q' : Provider}
    (hGet : (E.telemetry.settle held).providers[p]? = some q') :
    q'.released = false ↔ (E.step (.hand held)).HasHandle p := by
  rw [provider_settle] at hGet
  obtain ⟨q, hOld, rfl⟩ := Option.map_eq_some_iff.1 hGet
  unfold HasHandle
  rw [telemetry_hand hWithin, step_hand hWithin]
  by_cases hLoose : p ∈ E.telemetry.looseProviders held
  · obtain ⟨-, -, -, hNot, hAll⟩ := mem_looseProviders.1 hLoose
    rw [if_pos hLoose]
    refine iff_of_false (by simp) ?_
    rintro (hReached | ⟨id, s', hSpan, hOf, hReached⟩)
    · exact hNot hReached
    · obtain ⟨s, -, -, hKept, -⟩ := span_hand h hWithin hSpan
      have hReleased := hAll s' (List.mem_of_getElem? hSpan) hOf
      rw [hKept.2 hReached] at hReleased
      cases hReleased
  · rw [if_neg hLoose]
    constructor
    · intro hKept
      by_cases hReached : p ∈ reachedProviders held
      · exact Or.inl hReached
      · right
        by_cases hSpan : ∃ s' ∈ (E.telemetry.settle held).spans,
            s'.provider? = some p ∧ s'.released = false
        · obtain ⟨s', hs, hOf, hSpanKept⟩ := hSpan
          obtain ⟨id, hGet⟩ := List.getElem?_of_mem hs
          obtain ⟨s, -, -, hIff, -⟩ := span_hand h hWithin hGet
          exact ⟨id, s', hGet, hOf, hIff.1 hSpanKept⟩
        · refine absurd (mem_looseProviders.2 ⟨q, hOld, hKept, hReached, ?_⟩) hLoose
          intro s' hs hOf
          cases hReleased : s'.released with
          | true => rfl
          | false => exact absurd ⟨s', hs, hOf, hReleased⟩ hSpan
    · intro hHandle
      refine (h.provider_held p q hOld).2 ?_
      rcases hHandle with hReached | ⟨id, s', hSpan, hOf, hReached⟩
      · exact Or.inl ((reachesWithin_iff.1 hWithin).2 p hReached)
      · obtain ⟨s, hGet, hSame, -, -⟩ := span_hand h hWithin hSpan
        exact Or.inr ⟨id, s, hGet, hSame ▸ hOf, (reachesWithin_iff.1 hWithin).1 id hReached⟩

/-- A span that is released by the end has ended as soon as the loose spans are released. -/
theorem ended_hand {id : Nat} {s' : Span} (hGet : (E.telemetry.settle held).spans[id]? = some s')
    (hReleased : s'.released = true) (others : List Act) :
    id ∈ (ledger (E.acts ++ (releaseSpans (E.telemetry.looseSpans held) ++ others))).ended := by
  obtain ⟨s, hOld, -, -, hCause⟩ := span_hand h hWithin hGet
  obtain ⟨hLt, -⟩ := List.getElem?_eq_some_iff.1 hOld
  rw [ledger_append]
  refine ended_noteAll hLt ?_
  rcases hCause hReleased with hBefore | hLoose
  · exact Or.inl (h.ended id s hOld hBefore)
  · refine Or.inr ⟨.releaseSpan id, ?_, rfl⟩
    exact List.mem_append_left _ (List.mem_map.2 ⟨id, hLoose, rfl⟩)

/-- A provider that a redistribution releases, and that was not shut down before, is let go. -/
theorem letGo_hand {p : Nat} (hLoose : p ∈ E.telemetry.looseProviders held)
    (hNot : Act.shutdown p ∉ E.acts) : LetGo (E.acts ++ E.telemetry.releases held) p := by
  obtain ⟨q, hOld, hKept, -, hAll⟩ := mem_looseProviders.1 hLoose
  obtain ⟨hLt, -⟩ := List.getElem?_eq_some_iff.1 hOld
  obtain ⟨first, others, hSplit⟩ := List.append_of_mem hLoose
  have hFirst : p ∉ first := by
    have hNodup : (E.telemetry.looseProviders held).Nodup := List.nodup_range.filter _
    rw [hSplit, List.nodup_append] at hNodup
    exact fun hp => hNodup.2.2 p hp p (List.mem_cons_self ..) rfl
  let before := E.acts ++ (releaseSpans (E.telemetry.looseSpans held) ++ releaseProviders first)
  have hBefore : Telemetry.empty.afterAll before =
      (E.telemetry.withoutLooseSpans held).afterAll (releaseProviders first) := by
    rw [afterAll_append, afterAll_append]
    rfl
  have hAgrees := (accounts_ledger before).agrees
  rw [hBefore] at hAgrees
  have hGet : ((E.telemetry.withoutLooseSpans held).afterAll
      (releaseProviders first)).providers[p]? = some q := by
    rw [provider_releaseProviders, providers_withoutLooseSpans, hOld]
    simp [hFirst]
  refine ⟨before, releaseProviders others, ?_, ?_, ?_, ?_⟩
  · simp [before, releases, hSplit, releaseProviders]
  · rw [hBefore]
    obtain ⟨hThere, -⟩ := List.getElem?_eq_some_iff.1 hGet
    exact hThere
  · rw [← hAgrees.closed p q hGet, h.closed p q hOld]
    simp [hNot, hKept]
  · intro id d hBorn
    obtain ⟨s', hSpan, hOf, -⟩ := hAgrees.span_of_born hBorn
    rw [spans_releaseProviders, ← spans_settle] at hSpan
    exact ended_hand h hWithin hSpan (hAll s' (List.mem_of_getElem? hSpan) hOf) _

/-- A redistribution keeps what is kept. -/
theorem Kept.hand : Kept (E.step (.hand held)) := by
  have hSpans : (E.telemetry.settle held).spans.length = E.telemetry.spans.length :=
    length_spans_settle _ _
  have hProviders : (E.telemetry.settle held).providers.length = E.telemetry.providers.length :=
    length_providers_settle _ _
  constructor
  case span_held =>
    intro id s' hGet
    rw [telemetry_hand hWithin] at hGet
    rw [step_hand hWithin]
    obtain ⟨s, -, -, hKept, -⟩ := span_hand h hWithin hGet
    exact hKept
  case span_lt =>
    intro id hReached
    rw [step_hand hWithin] at hReached
    rw [telemetry_hand hWithin, hSpans]
    exact h.span_lt id ((reachesWithin_iff.1 hWithin).1 id hReached)
  case provider_held =>
    intro p q' hGet
    rw [telemetry_hand hWithin] at hGet
    exact provider_hand h hWithin hGet
  case provider_lt =>
    intro p hReached
    rw [step_hand hWithin] at hReached
    rw [telemetry_hand hWithin, hProviders]
    exact h.provider_lt p ((reachesWithin_iff.1 hWithin).2 p hReached)
  case provider_of_span =>
    intro id p s' hGet hOf
    rw [telemetry_hand hWithin] at hGet ⊢
    obtain ⟨s, hOld, hSame, -, -⟩ := span_hand h hWithin hGet
    rw [hProviders]
    exact h.provider_of_span id p s hOld (hSame ▸ hOf)
  case ended =>
    intro id s' hGet hReleased
    rw [telemetry_hand hWithin] at hGet
    rw [step_hand hWithin]
    exact ended_hand h hWithin hGet hReleased _
  case asked_lt =>
    intro p hAsked
    rw [step_hand hWithin] at hAsked
    rw [telemetry_hand hWithin, hProviders]
    exact h.asked_lt p (shutdown_mem_hand.1 hAsked)
  case closed =>
    intro p q' hGet
    rw [telemetry_hand hWithin, provider_settle] at hGet
    rw [step_hand hWithin, shutdown_mem_hand]
    obtain ⟨q, hOld, rfl⟩ := Option.map_eq_some_iff.1 hGet
    split
    · simp
    · exact h.closed p q hOld
  case let_go =>
    intro p q' hGet hReleased hNot
    rw [telemetry_hand hWithin, provider_settle] at hGet
    rw [step_hand hWithin] at hNot ⊢
    rw [shutdown_mem_hand] at hNot
    obtain ⟨q, hOld, rfl⟩ := Option.map_eq_some_iff.1 hGet
    by_cases hLoose : p ∈ E.telemetry.looseProviders held
    · exact letGo_hand h hWithin hLoose hNot
    · rw [if_neg hLoose] at hReleased
      exact (h.let_go p q hOld hReleased hNot).append _

end Hand

theorem Kept.run {E : Estate} (h : Kept E) (moves : List Move) : Kept (E.run moves) := by
  induction moves generalizing E with
  | nil => exact h
  | cons m rest ih =>
    refine ih ?_
    cases m with
    | act a =>
      by_cases hOpen : a.isOpenTo E.held = true
      · exact h.act hOpen
      · have hSame : E.step (.act a) = E := if_neg hOpen
        rw [hSame]
        exact h
    | hand held =>
      by_cases hWithin : reachesWithin held E.held = true
      · exact h.hand hWithin
      · have hSame : E.step (.hand held) = E := if_neg hWithin
        rw [hSame]
        exact h

end Estate

end SpanFlow
