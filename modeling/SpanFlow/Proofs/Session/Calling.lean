import SpanFlow.Proofs.Session.Returning

/-!
# A call inside a span

A call starts a span, gives its body a new context that carries it, and has this attached while the
body runs. When the body is over, in either way, the guard is closed, the context is let go and with
it the span, and the tracer is let go last.

`Spent` says of a session that it has come back to an earlier one and that a provider has exported
some spans in between. If this can be said of the body then it can be said of the call, with one
span more, and it does not matter whether the body had the span ended before it left.

`Fit` is what calls need: a session that is tidy, as every script leaves its own (`tidy_run`), a
provider that records, and contexts to attach and to start spans in that could have been made in
this session.

## Main results

* `Fit.returns`, `Fit.openGuard`, `Fit.derive`, `Fit.entered`: where calls can be made, they still
  can.
* `spent_closeGuard`: a scope has spent what its body has.
* `spent_leave`: a call has spent what its body has, and its own span.
-/

namespace SpanFlow

/-- No call on a span releases it. -/
theorem Telemetry.Act.released_callActive (active : ActiveSpan) (c : SpanCall) (id : Nat)
    (s : Span) : ((Act.callActive active c).onSpan id s).released = s.released :=
  released_onSpan (a := .callActive active c) (fun _ hSame => nomatch hSame) id s

/-- A span that is started is kept by what holds it then, and what was kept before still is. -/
theorem Telemetry.calm_start {t : Telemetry} {held : List Holding} (h : Calm t held)
    (tracer : Tracer) (name : String) (cx : Context) {x : Holding}
    (hx : x.span? = some t.spans.length) : Calm (t.start tracer name cx).1 (x :: held) := by
  constructor
  · intro id s' hSpan hKept
    rcases span_after_cases (a := .start tracer name cx) hSpan with ⟨s, hBefore, rfl⟩ | ⟨rfl, -⟩
    · obtain ⟨y, hy, hReached⟩ := List.mem_filterMap.1 (h.span id _ hBefore hKept)
      exact List.mem_filterMap.2 ⟨y, List.mem_cons_of_mem _ hy, hReached⟩
    · exact List.mem_filterMap.2 ⟨x, List.mem_cons_self, hx⟩
  · intro p q' hProvider hKept
    rcases provider_after_cases (a := .start tracer name cx) hProvider with
      ⟨q, hBefore, rfl⟩ | ⟨-, hAdded⟩
    · have hNot : ∀ other, Act.start tracer name cx ≠ .releaseProvider other :=
        fun _ hSame => nomatch hSame
      rw [released_onProvider hNot] at hKept
      rcases h.provider p q hBefore hKept with hReached | ⟨id, s, hSpan, hLive, hOf⟩
      · obtain ⟨y, hy, hReached⟩ := List.mem_filterMap.1 hReached
        exact .inl (List.mem_filterMap.2 ⟨y, List.mem_cons_of_mem _ hy, hReached⟩)
      · exact .inr ⟨id, s, span_after hSpan (.start tracer name cx), hLive, hOf⟩
    · cases hAdded

namespace Session

open Telemetry

variable {β : Type}

/-! ## Spending -/

/-- A session has come back to an earlier one, and meanwhile a provider has exported some spans and
spans that were there before were given these names at most. -/
structure Spent (p : Nat) (names : String → Prop) (spans : List SpanData) (w w' : World β) :
    Prop where
  returns : Returns w w'
  spends : Spends p names spans w.telemetry w'.telemetry

namespace Spent

variable {p : Nat} {names : String → Prop} {spans others : List SpanData} {w w' w'' : World β}

theorem refl : Spent p names [] w w := ⟨.refl, .refl⟩

theorem mono {more : String → Prop} (hMore : ∀ n, names n → more n)
    (h : Spent p names spans w w') : Spent p more spans w w' :=
  ⟨h.returns, h.spends.mono hMore⟩

theorem trans (h : Spent p names spans w w') (h' : Spent p names others w' w'') :
    Spent p names (spans ++ others) w w'' :=
  ⟨h.returns.trans h'.returns, h.spends.trans h'.spends⟩

theorem tidy (h : Spent p names spans w w') (hw : Tidy w) : Tidy w' where
  keyed := h.returns.keyed hw.keyed
  sound := h.spends.sound hw.sound
  calm := World.calm_mono hw.keyed.slots (h.returns.slots hw.keyed.slots) (h.spends.calm hw.calm)
    fun x => (h.returns.has_iff x).2
  span_lt id hid := by
    have hBefore := World.reachedSpans_mono (h.returns.slots hw.keyed.slots) hw.keyed.slots
      (fun x => (h.returns.has_iff x).1) id hid
    exact Nat.lt_of_lt_of_le (hw.span_lt id hBefore) h.spends.length_le

end Spent

/-! ## Contexts that calls can use -/

/-- A context that could have been made in a session, with a sampled span if it has a valid one. -/
structure Usable (w : World β) (cx : Context) : Prop where
  wellFormed : cx.WellFormed
  below : cx.Below w.supply
  span_lt : ∀ id, (Holding.context cx).span? = some id → id < w.telemetry.spans.length
  sampled : cx.spanContext.isValid = true → cx.spanContext.isSampled = true

/-- Contexts that are one instance carry the same span. -/
def Consistent (cxs : List Context) : Prop :=
  ∀ a ∈ cxs, ∀ b ∈ cxs, a.same b = true → a.activeSpan? = b.activeSpan?

/-- A session in which calls can be made on a flow, with these contexts at hand. -/
structure Fit (p flow : Nat) (env : List Context) (w : World β) : Prop where
  tidy : Tidy w
  live : Live w.telemetry p
  usable : ∀ cx ∈ w.current flow :: env, Usable w cx
  consistent : Consistent (w.current flow :: env)

theorem Usable.mono {w w' : World β} {cx : Context} (h : Usable w cx)
    (hSupply : w.supply ≤ w'.supply)
    (hSpans : w.telemetry.spans.length ≤ w'.telemetry.spans.length) :
    Usable w' cx where
  wellFormed := h.wellFormed
  below x hx := Nat.lt_of_lt_of_le (h.below x hx) hSupply
  span_lt id hid := Nat.lt_of_lt_of_le (h.span_lt id hid) hSpans
  sampled := h.sampled

theorem usable_root {w : World β} : Usable w .root where
  wellFormed := Context.wellFormed_root
  below _ hx := nomatch hx
  span_lt _ hid := nomatch hid
  sampled hValid := by cases hValid

/-- Only the root is the same instance as the root. -/
theorem eq_root_of_same {cx : Context} (h : cx.same .root = true) : cx = .root := by
  obtain ⟨_ | x⟩ := cx
  · rfl
  · simp [Context.same, Context.root] at h

namespace Consistent

variable {cxs : List Context}

theorem subset {others : List Context} (h : Consistent cxs) (hSubset : ∀ cx ∈ others, cx ∈ cxs) :
    Consistent others := fun a ha b hb => h a (hSubset a ha) b (hSubset b hb)

/-- The root can always be taken in. -/
theorem root (h : Consistent cxs) : Consistent (.root :: cxs) := by
  intro a ha b hb hSame
  rcases List.mem_cons.1 ha with rfl | hOldA <;> rcases List.mem_cons.1 hb with rfl | hOldB
  · rfl
  · rw [Context.same_symm] at hSame
    rw [eq_root_of_same hSame]
  · rw [eq_root_of_same hSame]
  · exact h a hOldA b hOldB hSame

/-- A context with a number of its own can be taken in. -/
theorem cons (h : Consistent cxs) {cx : Context} (hNew : ∀ a ∈ cxs, a.same cx = false) :
    Consistent (cx :: cxs) := by
  intro a ha b hb hSame
  rcases List.mem_cons.1 ha with rfl | hOldA <;> rcases List.mem_cons.1 hb with rfl | hOldB
  · rfl
  · rw [Context.same_symm, hNew b hOldB] at hSame
    cases hSame
  · rw [hNew a hOldA] at hSame
    cases hSame
  · exact h a hOldA b hOldB hSame

end Consistent

/-- The context at a place among those at hand; the root is always at hand. -/
def place (env : List Context) (i : Nat) : Context := env.getD i .root

theorem place_cases (env : List Context) (i : Nat) : place env i = .root ∨ place env i ∈ env := by
  unfold place
  rw [List.getD_eq_getElem?_getD]
  cases hPlace : env[i]? with
  | none => exact .inl rfl
  | some cx => exact .inr (List.mem_of_getElem? hPlace)

namespace Fit

variable {p flow : Nat} {env : List Context} {w w' : World β}

theorem place_usable (h : Fit p flow env w) (i : Nat) : Usable w (place env i) := by
  rcases place_cases env i with hRoot | hMem
  · rw [hRoot]
    exact usable_root
  · exact h.usable _ (List.mem_cons_of_mem _ hMem)

/-- A context at hand may be taken in once more. -/
theorem consistent_place (h : Fit p flow env w) (i : Nat) :
    Consistent (place env i :: w.current flow :: env) := by
  rcases place_cases env i with hRoot | hMem
  · rw [hRoot]
    exact h.consistent.root
  · refine h.consistent.subset fun cx hcx => ?_
    rcases List.mem_cons.1 hcx with rfl | hOld
    · exact List.mem_cons_of_mem _ hMem
    · exact hOld

/-- Where calls can be made, they can be made again. -/
theorem returns {names : String → Prop} {spans : List SpanData} (h : Fit p flow env w)
    (hSpent : Spent p names spans w w') :
    Fit p flow env w' where
  tidy := hSpent.tidy h.tidy
  live := hSpent.spends.live h.live
  usable cx hcx := by
    rw [hSpent.returns.current_flow] at hcx
    exact (h.usable cx hcx).mono hSpent.returns.supply_le hSpent.spends.length_le
  consistent := by
    rw [hSpent.returns.current_flow]
    exact h.consistent

end Fit

/-! ## Scopes -/

section Scope

variable {p flow : Nat} {env : List Context} {w w' : World β} {cx : Context}

/-- Under a guard, a session has besides what it had the context that was attached. -/
theorem has_openGuard_cases {x : Holding} (hx : (w.openGuard flow cx).2.Has x) :
    x = .context cx ∨ w.Has x := by
  rcases hx with ⟨slot, rfl⟩ | ⟨g, hg, other, hIn, rfl⟩ | hRest
  · by_cases hSlot : w.slotOf flow = slot
    · subst hSlot
      rw [World.slots_openGuard]
      unfold Slots.attach
      split
      · exact .inr (.inl ⟨_, rfl⟩)
      · rw [Slots.current_replace]
        exact .inl rfl
    · refine .inr (.inl ⟨slot, ?_⟩)
      rw [World.slots_openGuard]
      unfold Slots.attach
      split
      · rfl
      · rw [Slots.current_replace_of_ne _ _ hSlot]
  · rcases Assoc.mem_insert.1 hg with rfl | ⟨hOld, -⟩
    · unfold Guard.of at hIn
      split at hIn <;> simp only [Guard.contexts, Option.toList_none, Option.toList_some,
        List.nil_append, List.singleton_append, List.mem_cons, List.not_mem_nil, or_false] at hIn
      · exact .inl (by rw [hIn])
      · rcases hIn with rfl | rfl
        · exact .inr (.inl ⟨_, rfl⟩)
        · exact .inl rfl
    · exact .inr (.inr (.inl ⟨g, hOld, other, hIn, rfl⟩))
  · exact .inr (.inr (.inr hRest))

theorem Tidy.openGuard (h : Tidy w) (hcx : Usable w cx) : Tidy (w.openGuard flow cx).2 where
  keyed := h.keyed.openGuard flow cx
  sound := h.sound
  calm := calm_openGuard h.keyed (h.calm.cons _)
  span_lt id hid := by
    obtain ⟨x, hx, hReached⟩ := (World.mem_reachedSpans (h.keyed.openGuard flow cx).slots).1 hid
    rcases has_openGuard_cases hx with rfl | hOld
    · exact hcx.span_lt id hReached
    · exact h.lt_of_has hOld hReached

/-- Under a guard, the context attached is current, or the one that was current and is the same. -/
theorem current_openGuard_cases (w : World β) (flow : Nat) (cx : Context) :
    (w.openGuard flow cx).2.current flow = cx ∨
      (w.current flow).same cx = true ∧ (w.openGuard flow cx).2.current flow = w.current flow := by
  rw [World.current, World.slotOf_openGuard, World.slots_openGuard]
  by_cases hSame : (w.current flow).same cx = true
  · refine .inr ⟨hSame, ?_⟩
    rw [World.current] at hSame ⊢
    simp [Slots.attach, Guard.of, hSame]
  · rw [World.current] at hSame
    simp [Slots.attach, Guard.of, hSame]

/-- Under a guard, calls are made where the context attached is current. -/
theorem Fit.openGuard (h : Fit p flow env w) (i : Nat) :
    Fit p flow env (w.openGuard flow (place env i)).2 ∧
      ((w.openGuard flow (place env i)).2.current flow).activeSpan? =
        (place env i).activeSpan? := by
  have hConsistent := h.consistent_place i
  have hMem : ∀ cx ∈ (w.openGuard flow (place env i)).2.current flow :: env,
      cx ∈ place env i :: w.current flow :: env := by
    intro cx hcx
    rcases List.mem_cons.1 hcx with rfl | hEnv
    · rcases current_openGuard_cases w flow (place env i) with hNew | ⟨-, hOld⟩
      · rw [hNew]
        exact List.mem_cons_self
      · rw [hOld]
        exact List.mem_cons_of_mem _ List.mem_cons_self
    · exact List.mem_cons_of_mem _ (List.mem_cons_of_mem _ hEnv)
  refine ⟨⟨h.tidy.openGuard (h.place_usable i), h.live, fun cx hcx => ?_,
    hConsistent.subset hMem⟩, ?_⟩
  · refine Usable.mono (w := w) ?_ (Nat.le_succ _) (Nat.le_refl _)
    rcases List.mem_cons.1 (hMem cx hcx) with rfl | hOld
    · exact h.place_usable i
    · exact h.usable cx hOld
  · rcases current_openGuard_cases w flow (place env i) with hNew | ⟨hSame, hOld⟩
    · rw [hNew]
    · rw [hOld]
      exact hConsistent _ (List.mem_cons_of_mem _ List.mem_cons_self) _ List.mem_cons_self hSame

/-- A scope has spent what its body has, and closing it does nothing to any span. -/
theorem spent_closeGuard {names : String → Prop} {spans : List SpanData} (h : Tidy w)
    (hBody : Spent p names spans (w.openGuard flow cx).2 w') :
    Spent p names spans w (w'.closeGuard flow (w.openGuard flow cx).1) ∧
      (w'.closeGuard flow (w.openGuard flow cx).1).telemetry = w'.telemetry := by
  have hSpends : Spends p names spans w.telemetry w'.telemetry := hBody.spends
  obtain ⟨hReturns, hTelemetry⟩ :=
    returns_closeGuard h.keyed hBody.returns (hSpends.calm h.calm)
  exact ⟨⟨hReturns, by rw [hTelemetry]; exact hSpends⟩, hTelemetry⟩

end Scope

/-! ## New contexts -/

section Derive

variable {p flow : Nat} {env : List Context} {w : World β}

theorem usable_derive {cx : Context} (h : Usable w cx) {id key : Nat} {b : Binding}
    (hKey : key ≠ Context.spanKey) (hid : id < w.supply) :
    Usable w (cx.derive id key b) ∧ (cx.derive id key b).activeSpan? = cx.activeSpan? := by
  have hSpan : (cx.derive id key b).activeSpan? = cx.activeSpan? := by
    rw [Context.activeSpan?_eq_bind, Context.binding?_derive h.wellFormed, if_neg hKey,
      Context.activeSpan?_eq_bind]
  have hContext : (cx.derive id key b).spanContext = cx.spanContext := by
    simp only [Context.spanContext, Context.activeSpan, hSpan]
  refine ⟨⟨Context.wellFormed_derive h.wellFormed id key b,
    fun x hx => ?_, fun i hi => ?_, ?_⟩, hSpan⟩
  · obtain ⟨entries, hNew⟩ := Context.instance?_derive cx id key b
    rw [hNew] at hx
    obtain rfl := Option.some.inj hx
    exact hid
  · rw [Holding.span?, hSpan] at hi
    exact h.span_lt i hi
  · rw [hContext]
    exact h.sampled

/-- A context that binds a text anew is one more at hand, and carries the same span. -/
theorem Fit.derive (h : Fit p flow env w) (i : Nat) {key : Nat} (hKey : key ≠ Context.spanKey)
    (text : String) :
    let cx := (place env i).withValue w.supply key (.text text)
    Fit p flow (cx :: env) w.fresh.2 ∧ cx.activeSpan? = (place env i).activeSpan? := by
  intro cx
  have hUsable : Usable w.fresh.2 (place env i) :=
    (h.place_usable i).mono (Nat.le_succ _) (Nat.le_refl _)
  obtain ⟨hNew, hSpan⟩ := usable_derive hUsable hKey (b := ⟨w.supply, .text text⟩)
    (Nat.lt_succ_self w.supply)
  have hSpent : Spent p (fun _ => False) [] w w.fresh.2 := ⟨.fresh, .refl⟩
  have hFit := h.returns hSpent
  have hFresh : ∀ a ∈ w.current flow :: env, a.same cx = false := fun a ha =>
    Context.not_same_derive (h.usable a ha).below
  refine ⟨⟨hFit.tidy, hFit.live, fun other hOther => ?_, ?_⟩, hSpan⟩
  · rcases List.mem_cons.1 hOther with rfl | hOther
    · exact hFit.usable _ List.mem_cons_self
    · rcases List.mem_cons.1 hOther with rfl | hEnv
      · exact hNew
      · exact hFit.usable _ (List.mem_cons_of_mem _ hEnv)
  · refine (h.consistent.cons hFresh).subset fun other hOther => ?_
    rcases List.mem_cons.1 hOther with rfl | hOther
    · exact List.mem_cons_of_mem _ List.mem_cons_self
    · rcases List.mem_cons.1 hOther with rfl | hEnv
      · exact List.mem_cons_self
      · exact List.mem_cons_of_mem _ (List.mem_cons_of_mem _ hEnv)

end Derive

/-! ## Calls -/

namespace World

/-- The context that a call gives to its body. -/
def given (w : World β) (flow : Nat) (tracer : Tracer) (name : String) : Context :=
  let started := w.telemetry.start tracer name (w.current flow)
  (w.current flow).withSpan (w.supply + 1) (started.1.activeSpan started.2)

/-- The session in which a call has started its span. -/
def started (w : World β) (flow : Nat) (tracer : Tracer) (name : String) : World β :=
  ({ (w.pin (.tracer tracer)).2 with
    telemetry := (w.telemetry.start tracer name (w.current flow)).1 } : World β).fresh.2

/-- The session in which the body of a call begins. -/
def entered (w : World β) (flow : Nat) (tracer : Tracer) (name : String) : World β :=
  let cx := w.given flow tracer name
  (((w.started flow tracer name).pin (.context cx)).2.openGuard flow cx).2

/-- The session that a call leaves behind which began with this number. -/
def leave (w : World β) (flow number : Nat) : World β :=
  ((w.closeGuard flow (number + 3)).unpin (number + 2)).unpin number

end World

section Call

variable {flow : Nat} {env : List Context} {w w' : World β} {tracer : Tracer} (name : String)

theorem activeSpan?_given :
    (w.given flow tracer name).activeSpan? =
      some ⟨(w.telemetry.begun tracer name (w.current flow)).context,
        some w.telemetry.spans.length⟩ := by
  have hSpan := span_start w.telemetry tracer name (w.current flow)
  have hActive : (w.telemetry.start tracer name (w.current flow)).1.activeSpan
      (w.telemetry.start tracer name (w.current flow)).2 =
        ⟨(w.telemetry.begun tracer name (w.current flow)).context,
          some w.telemetry.spans.length⟩ := by
    rw [Telemetry.activeSpan, hSpan, snd_start]
  rw [World.given, hActive, Context.activeSpan?_withSpan]

theorem spanContext_given :
    (w.given flow tracer name).spanContext =
      (w.telemetry.begun tracer name (w.current flow)).context := by
  rw [Context.spanContext, Context.activeSpan, activeSpan?_given]
  rfl

theorem returns_started : Returns (w.pin (.tracer tracer)).2 (w.started flow tracer name) :=
  (Returns.of_telemetry _).trans .fresh

/-- What a session has in which a span has been started. -/
theorem has_started (h : Tidy w) (x : Holding) :
    (w.started flow tracer name).Has x ↔ x = .tracer tracer ∨ w.Has x :=
  ((returns_started name).has_iff x).trans (has_pin h.keyed _ x)

theorem keyed_started (h : Keyed w) : Keyed (w.started flow tracer name) :=
  (returns_started name).keyed (h.pin _)

/-- The span that is started is not held before the context is that carries it. -/
theorem not_reached_started (h : Tidy w) :
    w.telemetry.spans.length ∉ reachedSpans (w.started flow tracer name).holdings := by
  intro hReached
  obtain ⟨x, hx, hSpan⟩ := (World.mem_reachedSpans (keyed_started name h.keyed).slots).1 hReached
  rcases (has_started name h x).1 hx with rfl | hOld
  · cases hSpan
  · exact Nat.lt_irrefl _ (h.lt_of_has hOld hSpan)

/-- Nothing is loose when a span has been started but the span, until the context that carries it is
held. -/
theorem calm_started (hKeyed : Keyed w) (hCalm : Calm w.telemetry w.holdings) :
    Calm (w.telemetry.start tracer name (w.current flow)).1
      (.context (w.given flow tracer name) :: (w.started flow tracer name).holdings) := by
  have hPinned : Calm w.telemetry (w.pin (.tracer tracer)).2.holdings :=
    calm_pin hKeyed (hCalm.cons _)
  refine calm_start hPinned tracer name (w.current flow) ?_
  rw [Holding.span?, activeSpan?_given]
  rfl

/-- A context that carries the span is kept alive before it is attached. -/
theorem tidy_kept (h : Tidy w) :
    Tidy ((w.started flow tracer name).pin (.context (w.given flow tracer name))).2 := by
  have hKeyed : Keyed (w.started flow tracer name) := keyed_started name h.keyed
  constructor
  case keyed => exact hKeyed.pin _
  case sound => exact h.sound.after (.start tracer name (w.current flow))
  case calm => exact calm_pin hKeyed (calm_started name h.keyed h.calm)
  case span_lt =>
    intro id hid
    have hLength : (w.telemetry.start tracer name (w.current flow)).1.spans.length =
        w.telemetry.spans.length + 1 := by
      rw [spans_start, List.length_append]
      rfl
    show id < (w.telemetry.start tracer name (w.current flow)).1.spans.length
    rw [hLength]
    obtain ⟨x, hx, hSpan⟩ := (World.mem_reachedSpans (hKeyed.pin _).slots).1 hid
    rcases (has_pin hKeyed _ x).1 hx with rfl | hBefore
    · rw [Holding.span?, activeSpan?_given] at hSpan
      obtain rfl := Option.some.inj hSpan
      exact Nat.lt_succ_self _
    · rcases (has_started name h x).1 hBefore with rfl | hOld
      · cases hSpan
      · exact Nat.lt_succ_of_lt (h.lt_of_has hOld hSpan)

/-- In the body of a call, calls can be made with the context given at hand, which is current. -/
theorem Fit.entered (h : Fit tracer.provider flow env w) :
    Fit tracer.provider flow (w.given flow tracer name :: env) (w.entered flow tracer name) ∧
      (w.entered flow tracer name).current flow = w.given flow tracer name := by
  have hBegins := begun_of_live h.live (h.usable _ List.mem_cons_self).sampled name
  have hSupply : w.supply ≤ w.supply + 3 := Nat.le_add_right _ _
  have hLength : (w.telemetry.start tracer name (w.current flow)).1.spans.length =
      w.telemetry.spans.length + 1 := by
    rw [spans_start, List.length_append]
    rfl
  let kept : World β := ((w.started flow tracer name).pin (.context (w.given flow tracer name))).2
  have hOld : ∀ cx ∈ w.current flow :: env, Usable kept cx := fun cx hcx =>
    (h.usable cx hcx).mono hSupply (by
      show _ ≤ (w.telemetry.start tracer name (w.current flow)).1.spans.length
      rw [hLength]
      exact Nat.le_succ _)
  have hGiven : Usable kept (w.given flow tracer name) := by
    refine ⟨?_, fun x hx => ?_, fun id hid => ?_, fun _ => ?_⟩
    · exact Context.wellFormed_derive (h.usable _ List.mem_cons_self).wellFormed _ _ _
    · obtain ⟨entries, hNew⟩ := Context.instance?_derive (w.current flow) (w.supply + 1)
        Context.spanKey ⟨w.supply + 1, .span _⟩
      rw [World.given, Context.withSpan, Context.withValue, hNew] at hx
      obtain rfl := Option.some.inj hx
      show w.supply + 1 < w.supply + 3
      omega
    · rw [Holding.span?, activeSpan?_given] at hid
      obtain rfl := Option.some.inj hid
      show _ < (w.telemetry.start tracer name (w.current flow)).1.spans.length
      rw [hLength]
      exact Nat.lt_succ_self _
    · rw [spanContext_given]
      exact hBegins.sampled
  have hFresh : ∀ a ∈ w.current flow :: env, a.same (w.given flow tracer name) = false := by
    intro a ha
    refine Context.not_same_derive fun x hx => ?_
    exact Nat.lt_succ_of_lt ((h.usable a ha).below x hx)
  have hCurrent : kept.current flow = w.current flow := rfl
  have hAttached : (w.entered flow tracer name).current flow = w.given flow tracer name := by
    rcases current_openGuard_cases kept flow (w.given flow tracer name) with hNew | ⟨hSame, -⟩
    · exact hNew
    · rw [hCurrent, hFresh _ List.mem_cons_self] at hSame
      cases hSame
  refine ⟨⟨(tidy_kept name h.tidy).openGuard hGiven, live_start h.live, fun cx hcx => ?_, ?_⟩,
    hAttached⟩
  · rw [hAttached] at hcx
    refine Usable.mono (w := kept) ?_ (Nat.le_succ _) (Nat.le_refl _)
    rcases List.mem_cons.1 hcx with rfl | hcx
    · exact hGiven
    · rcases List.mem_cons.1 hcx with rfl | hEnv
      · exact hGiven
      · exact hOld cx (List.mem_cons_of_mem _ hEnv)
  · rw [hAttached]
    refine (h.consistent.cons hFresh).subset fun cx hcx => ?_
    rcases List.mem_cons.1 hcx with rfl | hcx
    · exact List.mem_cons_self
    · rcases List.mem_cons.1 hcx with rfl | hEnv
      · exact List.mem_cons_self
      · exact List.mem_cons_of_mem _ (List.mem_cons_of_mem _ hEnv)

/-- What a body may have done with its span when it is over: ended it, or not. -/
def Over (w' : World β) (active : ActiveSpan) (t : Telemetry) : Prop :=
  t = w'.telemetry ∨ t = (w'.telemetry.callActive active (.finish w'.telemetry.now)).1

/-- A call has spent what its body has, and then its own span: a child of the span that was carried
where the call was made, with the name of the call or one that the body gave it. -/
theorem spent_leave {names : String → Prop} {inner : List SpanData}
    (h : Fit tracer.provider flow env w)
    (hBody : Spent tracer.provider names inner (w.entered flow tracer name) w') {t : Telemetry}
    (hOver : Over w' (w.given flow tracer name).activeSpan t) :
    ∃ d : SpanData, d.context = (w.given flow tracer name).spanContext ∧
      d.ChildOf (w.current flow).spanContext ∧ d.IsOf tracer (fun n => n = name ∨ names n) ∧
      Spent tracer.provider names (inner ++ [d]) w
        ({ w' with telemetry := t }.leave flow w.supply) ∧
      ({ w' with telemetry := t }.leave flow w.supply).telemetry.identities =
        w'.telemetry.identities := by
  let cx := w.current flow
  let n := w.telemetry.spans.length
  have hSampled := (h.usable _ List.mem_cons_self).sampled
  obtain ⟨d, hContext, hChild, hOf, hSpends⟩ :=
    spends_life h.live h.tidy.sound hSampled hBody.spends
  refine ⟨d, by rw [hContext, spanContext_given], hChild, hOf, ?_⟩
  -- The span is there when the body is over, so that it is released in the same way, ended or not.
  have hBegins := begun_of_live h.live hSampled name
  have hNew : (w.telemetry.start tracer name cx).1.spans[n]? =
      some (w.telemetry.begun tracer name cx) := by
    have hStart := span_start w.telemetry tracer name cx
    rw [snd_start] at hStart
    exact hStart
  obtain ⟨s, hSpan, hWritten⟩ := hBody.spends.old _ _ hNew
  obtain ⟨hPoisoned, hData⟩ := hWritten.records hBegins.poisoned hBegins.data
  have hActive : (w.given flow tracer name).activeSpan.span? = some n := by
    rw [Context.activeSpan, activeSpan?_given]
    rfl
  have hRelease : t.releaseSpan n = w'.telemetry.releaseSpan n := by
    rcases hOver with rfl | rfl
    · rfl
    · exact releaseSpan_finish hActive hSpan hPoisoned hData
  have hThere : ∃ s', t.spans[n]? = some s' ∧ s'.released = false := by
    have hKept : s.released = false := hWritten.released.trans hBegins.released
    rcases hOver with rfl | rfl
    · exact ⟨s, hSpan, hKept⟩
    · refine ⟨_, span_after hSpan (.callActive _ (.finish w'.telemetry.now)), ?_⟩
      rw [Act.released_callActive, hKept]
  -- The guard is closed, which releases nothing.
  let started := w.started flow tracer name
  let kept := (started.pin (.context (w.given flow tracer name))).2
  have hKept : Tidy kept := tidy_kept name h.tidy
  have hCalm : Calm t kept.holdings := by
    have hBefore : Calm w'.telemetry kept.holdings := hBody.spends.calm hKept.calm
    rcases hOver with rfl | rfl
    · exact hBefore
    · exact hBefore.callActive _ _
  have hOpen :
      Returns (kept.openGuard flow (w.given flow tracer name)).2 { w' with telemetry := t } :=
    hBody.returns.trans (.of_telemetry t)
  obtain ⟨hClosed, hClosedTelemetry⟩ := returns_closeGuard hKept.keyed hOpen hCalm
  -- The context is let go, which releases the span.
  have hKeyed : Keyed started := keyed_started name h.tidy.keyed
  obtain ⟨hUnpinned, hUnpinnedTelemetry⟩ := returns_unpin hKeyed hClosed
  have hAfter : Calm (w'.telemetry.releaseSpan n) w.holdings := hSpends.calm h.tidy.calm
  have hReleased : t.settle started.holdings = w'.telemetry.releaseSpan n := by
    obtain ⟨s', hSpan', hKeptAlive⟩ := hThere
    rw [settle_eq_releaseSpan hSpan' hKeptAlive (not_reached_started name h.tidy), hRelease]
    rw [hRelease]
    exact World.calm_mono h.tidy.keyed.slots hKeyed.slots hAfter
      fun x hx => (has_started name h.tidy x).2 (.inr hx)
  rw [hClosedTelemetry, hReleased] at hUnpinnedTelemetry
  -- The tracer is let go, which releases nothing.
  obtain ⟨hLeft, hLeftTelemetry⟩ :=
    returns_unpin h.tidy.keyed ((returns_started name).trans hUnpinned)
  rw [hUnpinnedTelemetry, settle_of_calm hAfter] at hLeftTelemetry
  refine ⟨⟨hLeft, by rw [← hLeftTelemetry] at hSpends; exact hSpends⟩, ?_⟩
  have hSame : (w'.telemetry.releaseSpan n).identities = w'.telemetry.identities :=
    (identities_after _ (.releaseSpan n)).trans (List.append_nil _)
  exact (congrArg identities hLeftTelemetry).trans hSame

end Call

end Session

end SpanFlow
