import Mathlib.Algebra.GroupWithZero.Nat
import SpanFlow.Proofs.Recording.Delivery
import SpanFlow.Proofs.Recording.Handles

/-!
# Providers are shut down once

A provider is shut down by the first call that asks for it, or when the last handle to it goes. The
handle may be a span that ends with it and is still to be exported: releases come in an order in
which that happens first.

## Main results

* `shutDownOnce_run`: what holds of providers and their exporters in every estate.
-/

namespace SpanFlow

open Telemetry

namespace Telemetry

/-! ## Calls to come -/

theorem callsOf_afterAll {t : Telemetry} (h : Sound t) (acts : List Act) (e : Nat) :
    ∃ others, (t.afterAll acts).callsOf e = t.callsOf e ++ others := by
  induction acts generalizing t with
  | nil => exact ⟨[], (List.append_nil _).symm⟩
  | cons a rest ih =>
    obtain ⟨others, hOthers⟩ := ih (h.after a)
    refine ⟨t.told a e ++ others, ?_⟩
    rw [afterAll_cons, hOthers, callsOf_after h, List.append_assoc]

theorem exportersOf_afterAll {t : Telemetry} {p : Nat} (h : p < t.providers.length)
    (acts : List Act) : (t.afterAll acts).exportersOf p = t.exportersOf p := by
  induction acts generalizing t with
  | nil => rfl
  | cons a rest ih =>
    have hLength := length_providers_after t a
    rw [afterAll_cons, ih (by omega), exportersOf_after h]

theorem mem_exportersOf_afterAll {t : Telemetry} {p e : Nat} (h : e ∈ t.exportersOf p)
    (acts : List Act) : e ∈ (t.afterAll acts).exportersOf p := by
  by_cases hp : p < t.providers.length
  · rw [exportersOf_afterAll hp]
    exact h
  · simp [exportersOf, List.getElem?_eq_none (Nat.not_lt.1 hp)] at h

theorem isClosed_after {t : Telemetry} {p : Nat} (hp : p < t.providers.length)
    (h : t.isClosed p = true) (a : Act) : (t.after a).isClosed p = true := by
  have hGet := List.getElem?_eq_getElem hp
  rw [isClosed_eq (provider_after hGet a), closed_onProvider, ← isClosed_eq hGet]
  exact Or.inl h

/-- Nothing calls an exporter that only a closed provider has. -/
theorem told_of_closed {t : Telemetry} {p e : Nat} (hClosed : t.isClosed p = true)
    (hOnly : ∀ q, q ≠ p → e ∉ t.exportersOf q) (a : Act) : t.told a e = [] := by
  have hCount : ∀ q, t.isClosed q = false → (t.exportersOf q).count e = 0 := by
    intro q hOpen
    refine List.count_eq_zero.2 (hOnly q ?_)
    rintro rfl
    rw [hClosed] at hOpen
    cases hOpen
  have hReceipts : t.receipts e ((a.ends? t.now).bind fun x => t.delivery? x.1 x.2) = [] := by
    cases hDelivery : (a.ends? t.now).bind fun x => t.delivery? x.1 x.2 with
    | none => rfl
    | some d =>
      obtain ⟨x, -, hDelivery⟩ := Option.bind_eq_some_iff.1 hDelivery
      have hOpen := isClosed_of_delivery? hDelivery
      simp [receipts, hCount d.1 hOpen]
  cases a with
  | flush q | shutdown q | releaseProvider q =>
    show (if t.isClosed q then [] else List.replicate ((t.exportersOf q).count e) _) = []
    split
    · rfl
    · rename_i hOpen
      rw [hCount q (by simpa using hOpen)]
      rfl
  | _ => exact hReceipts

/-- An exporter that only a closed provider has is never called again. -/
theorem callsOf_of_closed {t : Telemetry} (h : Sound t) {p e : Nat} (hp : p < t.providers.length)
    (hClosed : t.isClosed p = true) (acts : List Act)
    (hOnly : ∀ q, q ≠ p → e ∉ (t.afterAll acts).exportersOf q) :
    (t.afterAll acts).callsOf e = t.callsOf e := by
  induction acts generalizing t with
  | nil => rfl
  | cons a rest ih =>
    have hLength := length_providers_after t a
    have hNow : ∀ q, q ≠ p → e ∉ t.exportersOf q :=
      fun q hq he => hOnly q hq (mem_exportersOf_afterAll he (a :: rest))
    rw [afterAll_cons, ih (h.after a) (by omega) (isClosed_after hp hClosed a) hOnly,
      callsOf_after h, told_of_closed hClosed hNow, List.append_nil]

/-! ## The ledger of a closed provider -/

/-- No span is born with a provider that is shut down. -/
theorem born_noteAll {l : Ledger} {p id : Nat} {d : SamplingDecision} (hShut : p ∈ l.shut)
    (t : Telemetry) (acts : List Act)
    (h : (l.noteAll t acts).born[id]? = some (some (p, d))) :
    l.born[id]? = some (some (p, d)) := by
  induction acts generalizing l t with
  | nil => exact h
  | cons a rest ih =>
    have hNoted := ih (mem_shut_note.2 (Or.inl hShut)) (t.after a) h
    by_cases hLt : id < l.born.length
    · rw [← hNoted]
      exact (List.getElem?_append_left hLt).symm
    · have hBirth : l.birth? t a = some (some (p, d)) := by
        have hMem := List.mem_of_getElem? ((List.getElem?_append_right (Nat.not_lt.1 hLt)) ▸ hNoted)
        exact Option.mem_toList.1 hMem
      cases a with
      | start tracer name cx =>
        have hStarted : l.started? t tracer name cx = some (p, d) := Option.some.inj hBirth
        unfold Ledger.started? at hStarted
        split at hStarted
        · cases hStarted
        · rename_i hOpen
          obtain ⟨q, -, hSame⟩ := Option.map_eq_some_iff.1 hStarted
          have hProvider : tracer.provider = p := congrArg Prod.fst hSame
          exact absurd (hProvider ▸ hShut) hOpen
      | _ => simp [Ledger.birth?] at hBirth

theorem endings_noteAll (l : Ledger) (t : Telemetry) (acts : List Act) :
    ∃ new, (l.noteAll t acts).endings = l.endings ++ new ∧ ∀ x ∈ new, x.provider ∉ l.shut := by
  induction acts generalizing l t with
  | nil => exact ⟨[], (List.append_nil _).symm, by simp⟩
  | cons a rest ih =>
    obtain ⟨new, hNew, hOpen⟩ := ih (l.note t a) (t.after a)
    refine ⟨(l.ending? t a).toList ++ new, ?_, fun x hx => ?_⟩
    · show ((l.note t a).noteAll (t.after a) rest).endings = _
      rw [hNew, ← List.append_assoc]
      rfl
    · rcases List.mem_append.1 hx with hFirst | hLater
      · exact (ending?_eq_some (Option.mem_toList.1 hFirst)).2.2.2.1
      · exact fun hShut => hOpen x hLater (mem_shut_note.2 (Or.inl hShut))

end Telemetry

namespace Estate

/-- What is so in an estate, and whatever moves follow. -/
structure ShutDownOnce (E : Estate) : Prop where
  /-- A provider is closed if somebody with a handle has shut it down, and otherwise from when there
  is no handle to it any more. -/
  closed : ∀ p < E.telemetry.providers.length,
    E.telemetry.isClosed p = true ↔ Act.shutdown p ∈ E.acts ∨ ¬ E.HasHandle p
  /-- An exporter has been shut down once for each time that it is registered with a closed
  provider. -/
  shutdowns : ∀ e, ((E.telemetry.callsOf e).filter isShutdown).length =
    (((List.range E.telemetry.providers.length).filter E.telemetry.isClosed).map fun p =>
      (E.telemetry.exportersOf p).count e).sum
  /-- A closed provider refuses to flush and to shut down, and calls no exporter for it. A span that
  it starts has no record and no identity, and nothing is drawn from the provider for it. -/
  refused : ∀ p, E.telemetry.isClosed p = true →
    E.telemetry.flush p = (E.telemetry, .error .alreadyShutDown) ∧
      E.telemetry.shutdown p = (E.telemetry, .error .alreadyShutDown) ∧
      ∀ tracer name cx, tracer.provider = p → E.telemetry.start tracer name cx =
        E.telemetry.addSpan (.fresh .none (.recorded none tracer .standard))
  /-- After a provider is closed none of its spans is exported, and exporters that no other provider
  has are never called again. -/
  silent : ∀ p < E.telemetry.providers.length, E.telemetry.isClosed p = true → ∀ moves,
    (∃ new, (ledger (E.run moves).acts).endings = (ledger E.acts).endings ++ new ∧
      ∀ x ∈ new, x.provider ≠ p) ∧
    ∀ e, (∀ q, q ≠ p → e ∉ (E.run moves).telemetry.exportersOf q) →
      (E.run moves).telemetry.callsOf e = E.telemetry.callsOf e
  /-- If nobody has shut a closed provider down, each of its exporters has received every span of it
  that was to be recorded and sampled, before it was shut down. -/
  exported : ∀ p < E.telemetry.providers.length, E.telemetry.isClosed p = true →
    Act.shutdown p ∉ E.acts → ∀ e ∈ E.telemetry.exportersOf p,
      ∃ earlier later, E.telemetry.callsOf e = earlier ++ .shutdown :: later ∧
        ∀ id, (ledger E.acts).born[id]? = some (some (p, .recordAndSample)) →
          ∃ x ∈ (ledger E.acts).endings, x.span = id ∧ ∃ c ∈ earlier, x.call? = some c

theorem isClosed_iff {E : Estate} (h : Kept E) {p : Nat} (hp : p < E.telemetry.providers.length) :
    E.telemetry.isClosed p = true ↔ Act.shutdown p ∈ E.acts ∨ ¬ E.HasHandle p := by
  have hGet := List.getElem?_eq_getElem hp
  rw [isClosed_eq hGet, h.closed p _ hGet, ← h.provider_held p _ hGet, Bool.not_eq_false]

/-- The providers that are noted as shut down are those that are closed, each once. -/
theorem perm_shut (acts : List Act) :
    (ledger acts).shut.Perm
      ((List.range (Telemetry.empty.afterAll acts).providers.length).filter
        (Telemetry.empty.afterAll acts).isClosed) := by
  have hAccounts := accounts_ledger acts
  refine (List.perm_ext_iff_of_nodup hAccounts.shut_nodup (List.nodup_range.filter _)).2 fun p => ?_
  rw [List.mem_filter, List.mem_range]
  exact hAccounts.agrees.mem_shut

theorem length_shutdowns (E : Estate) (e : Nat) :
    ((E.telemetry.callsOf e).filter isShutdown).length =
      (((List.range E.telemetry.providers.length).filter E.telemetry.isClosed).map fun p =>
        (E.telemetry.exportersOf p).count e).sum := by
  have hShutdowns := (accounts_ledger E.acts).shutdowns e
  rw [telemetry, hShutdowns, List.length_flatMap]
  simp only [List.length_replicate]
  exact ((perm_shut E.acts).map _).sum_nat

theorem refused_of_closed {t : Telemetry} {p : Nat} (h : t.isClosed p = true) :
    t.flush p = (t, .error .alreadyShutDown) ∧ t.shutdown p = (t, .error .alreadyShutDown) ∧
      ∀ tracer name cx, tracer.provider = p →
        t.start tracer name cx = t.addSpan (.fresh .none (.recorded none tracer .standard)) := by
  refine ⟨by rw [flush, if_pos h], by rw [shutdown, if_pos h], ?_⟩
  rintro tracer name cx rfl
  unfold start
  cases hGet : t.providers[tracer.provider]? with
  | none => rfl
  | some q =>
    rw [isClosed_eq hGet] at h
    simp only [h, if_true]

theorem silent_of_closed {E : Estate} {p : Nat} (hp : p < E.telemetry.providers.length)
    (hClosed : E.telemetry.isClosed p = true) (moves : List Move) :
    (∃ new, (ledger (E.run moves).acts).endings = (ledger E.acts).endings ++ new ∧
      ∀ x ∈ new, x.provider ≠ p) ∧
    ∀ e, (∀ q, q ≠ p → e ∉ (E.run moves).telemetry.exportersOf q) →
      (E.run moves).telemetry.callsOf e = E.telemetry.callsOf e := by
  have hAgrees := (accounts_ledger E.acts).agrees
  obtain ⟨others, hActs⟩ := acts_run E moves
  constructor
  · obtain ⟨new, hNew, hOpen⟩ := endings_noteAll (ledger E.acts) E.telemetry others
    refine ⟨new, ?_, ?_⟩
    · rw [hActs, ledger_append]
      exact hNew
    · rintro x hx rfl
      exact hOpen x hx (hAgrees.mem_shut.2 ⟨hp, hClosed⟩)
  · intro e hOnly
    have hTelemetry : (E.run moves).telemetry = E.telemetry.afterAll others := by
      rw [telemetry, hActs, afterAll_append]
      rfl
    rw [hTelemetry] at hOnly ⊢
    exact callsOf_of_closed hAgrees.sound hp hClosed others hOnly

/-- What is noted as an ending was received by the exporters of the provider. -/
theorem call_mem_of_ending {acts : List Act} {x : Ending} {e : Nat}
    (hx : x ∈ (ledger acts).endings)
    (he : e ∈ (Telemetry.empty.afterAll acts).exportersOf x.provider) :
    ∃ c ∈ (Telemetry.empty.afterAll acts).callsOf e, x.call? = some c := by
  have hExports := (accounts_ledger acts).exports e
  have hPositive := List.count_pos_iff.2 he
  have hMem : x.call? ∈ ((Telemetry.empty.afterAll acts).exportsOf e).map some := by
    rw [hExports, List.mem_flatMap]
    exact ⟨x, hx, List.mem_replicate.2 ⟨by omega, rfl⟩⟩
  obtain ⟨c, hc, hCall⟩ := List.mem_map.1 hMem
  exact ⟨c, (List.mem_filter.1 hc).1, hCall.symm⟩

/-- Before a provider is let go, each of its exporters has received all there is to export. -/
theorem exported_of_letGo {acts : List Act} {p e : Nat} (h : LetGo acts p)
    (he : e ∈ (Telemetry.empty.afterAll acts).exportersOf p) :
    ∃ earlier later, (Telemetry.empty.afterAll acts).callsOf e = earlier ++ .shutdown :: later ∧
      ∀ id, (ledger acts).born[id]? = some (some (p, .recordAndSample)) →
        ∃ x ∈ (ledger acts).endings, x.span = id ∧ ∃ c ∈ earlier, x.call? = some c := by
  obtain ⟨before, after, rfl, hp, hOpen, hEnded⟩ := h
  have hAccounts := accounts_ledger before
  have hSound := hAccounts.agrees.sound
  have hSplit : Telemetry.empty.afterAll (before ++ .releaseProvider p :: after) =
      ((Telemetry.empty.afterAll before).after (.releaseProvider p)).afterAll after := by
    rw [afterAll_append, afterAll_cons]
  have hLength := length_providers_after (Telemetry.empty.afterAll before) (.releaseProvider p)
  rw [hSplit, exportersOf_afterAll (by omega), exportersOf_after hp] at he
  obtain ⟨others, hOthers⟩ := callsOf_afterAll (hSound.after (.releaseProvider p)) after e
  obtain ⟨k, hCount⟩ : ∃ k,
      ((Telemetry.empty.afterAll before).exportersOf p).count e = k + 1 :=
    Nat.exists_eq_add_one.2 (List.count_pos_iff.2 he)
  have hTold : (Telemetry.empty.afterAll before).told (.releaseProvider p) e =
      .shutdown :: List.replicate k .shutdown := by
    have hNot : ¬ (Telemetry.empty.afterAll before).isClosed p = true :=
      fun hClosed => hOpen (hAccounts.agrees.mem_shut.2 ⟨hp, hClosed⟩)
    show (if (Telemetry.empty.afterAll before).isClosed p then [] else _) = _
    rw [if_neg hNot, hCount, List.replicate_succ]
  refine ⟨(Telemetry.empty.afterAll before).callsOf e, List.replicate k .shutdown ++ others, ?_, ?_⟩
  · rw [hSplit, hOthers, callsOf_after hSound, hTold]
    simp
  · intro id hBorn
    have hBornBefore : (ledger before).born[id]? = some (some (p, .recordAndSample)) := by
      rw [ledger_append] at hBorn
      have hNoted := born_noteAll (mem_shut_note.2 (Or.inr ⟨rfl, hp⟩)) _ after hBorn
      rw [← hNoted]
      exact congrArg (·[id]?) (List.append_nil _).symm
    obtain ⟨x, hx, hSpan⟩ :=
      (hAccounts.complete id p hBornBefore (hEnded id _ hBornBefore)).resolve_left hOpen
    have hProvider : x.provider = p := by
      have hSampled := hAccounts.sampled x hx
      rw [hSpan, hBornBefore] at hSampled
      cases hSampled
      rfl
    obtain ⟨new, hNew, -⟩ := endings_noteAll (ledger before) (Telemetry.empty.afterAll before)
      (.releaseProvider p :: after)
    refine ⟨x, ?_, hSpan, call_mem_of_ending hx (hProvider ▸ he)⟩
    rw [ledger_append, hNew]
    exact List.mem_append_left _ hx

/-- Whatever is done to spans and providers, and however the handles to them are copied, moved and
let go, providers are shut down once. -/
theorem shutDownOnce_run (moves : List Move) : ShutDownOnce (empty.run moves) := by
  have hKept : Kept (empty.run moves) := kept_empty.run moves
  constructor
  case closed => exact fun p hp => isClosed_iff hKept hp
  case shutdowns => exact length_shutdowns _
  case refused => exact fun p hClosed => refused_of_closed hClosed
  case silent => exact fun p hp hClosed more => silent_of_closed hp hClosed more
  case exported =>
    intro p hp hClosed hNot e he
    have hGet := List.getElem?_eq_getElem hp
    have hReleased : ((empty.run moves).telemetry.providers[p]).released = true := by
      rw [isClosed_eq hGet, hKept.closed p _ hGet] at hClosed
      exact hClosed.resolve_left hNot
    exact exported_of_letGo (hKept.let_go p _ hGet hReleased hNot) he

end Estate

end SpanFlow
