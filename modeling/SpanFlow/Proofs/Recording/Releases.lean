import SpanFlow.Proofs.Recording.Acts

/-!
# Releasing what is held no longer

What a list of holdings reaches are the spans and the providers that it names, and the spans that
its contexts carry. Settling on such a list releases what it does not reach: first spans, and then
the providers that neither the list nor any span still keeps.

## Main results

* `settle_eq_afterAll`: settling is a sequence of releases.
* `span_settle`, `provider_settle`: what becomes of spans and providers.
-/

namespace SpanFlow

namespace Holding

/-- The span that something holds. -/
def span? : Holding → Option Nat
  | context cx => cx.activeSpan?.bind ActiveSpan.span?
  | span id => some id
  | _ => none

/-- The provider that something holds other than by a span. -/
def provider? : Holding → Option Nat
  | tracer t => some t.provider
  | provider p => some p
  | _ => none

theorem holdsSpan_eq (id : Nat) (h : Holding) : h.holdsSpan id = (h.span? == some id) := by
  cases h with
  | context cx => cases hActive : cx.activeSpan? <;> simp [holdsSpan, span?, hActive]
  | span other => simp [holdsSpan, span?]
  | _ => rfl

theorem holdsProvider_eq (id : Nat) (h : Holding) :
    h.holdsProvider id = (h.provider? == some id) := by
  cases h <;> rfl

end Holding

/-- The spans that holdings reach. -/
def reachedSpans (held : List Holding) : List Nat := held.filterMap Holding.span?

/-- The providers that holdings reach other than by spans. -/
def reachedProviders (held : List Holding) : List Nat := held.filterMap Holding.provider?

theorem any_holdsSpan (held : List Holding) (id : Nat) :
    held.any (Holding.holdsSpan id) = true ↔ id ∈ reachedSpans held := by
  simp [reachedSpans, Holding.holdsSpan_eq]

theorem any_holdsProvider (held : List Holding) (id : Nat) :
    held.any (Holding.holdsProvider id) = true ↔ id ∈ reachedProviders held := by
  simp [reachedProviders, Holding.holdsProvider_eq]

namespace Telemetry

/-! ## Releases -/

/-- Releases of spans, in order. -/
def releaseSpans (ids : List Nat) : List Act := ids.map Act.releaseSpan

/-- Releases of providers, in order. -/
def releaseProviders (ids : List Nat) : List Act := ids.map Act.releaseProvider

theorem afterAll_releaseSpans (t : Telemetry) (ids : List Nat) :
    t.afterAll (releaseSpans ids) = ids.foldl releaseSpan t := List.foldl_map

theorem afterAll_releaseProviders (t : Telemetry) (ids : List Nat) :
    t.afterAll (releaseProviders ids) = ids.foldl releaseProvider t := List.foldl_map

theorem afterRelease_afterRelease (s : Span) : s.afterRelease.afterRelease = s.afterRelease := by
  rcases s with ⟨context, kind, poisoned, released⟩
  cases kind <;> rfl

theorem span_releaseSpans (t : Telemetry) (ids : List Nat) (j : Nat) :
    (t.afterAll (releaseSpans ids)).spans[j]? =
      t.spans[j]?.map fun s => if j ∈ ids then s.afterRelease else s := by
  induction ids generalizing t with
  | nil => simp [releaseSpans]
  | cons i rest ih =>
    show ((t.after (.releaseSpan i)).afterAll (releaseSpans rest)).spans[j]? = _
    rw [ih, spans_after]
    show (t.spans.mapIdx _ ++ [])[j]?.map _ = _
    rw [List.append_nil, List.getElem?_mapIdx, Option.map_map]
    congr 1
    funext s
    simp only [Function.comp, Act.onSpan, List.mem_cons]
    by_cases hSame : i = j
    · subst hSame
      by_cases hRest : i ∈ rest <;> simp [hRest, afterRelease_afterRelease]
    · have hNe : ¬ j = i := fun h => hSame h.symm
      simp [hSame, hNe]

theorem providers_releaseSpans (t : Telemetry) (ids : List Nat) :
    (t.afterAll (releaseSpans ids)).providers = t.providers := by
  induction ids generalizing t with
  | nil => rfl
  | cons i rest ih => exact (ih (t.releaseSpan i)).trans (providers_finish t i t.now)

theorem spans_releaseProviders (t : Telemetry) (ids : List Nat) :
    (t.afterAll (releaseProviders ids)).spans = t.spans := by
  induction ids generalizing t with
  | nil => rfl
  | cons i rest ih => exact (ih (t.releaseProvider i)).trans (spans_releaseProvider t i)

theorem provider_releaseProviders (t : Telemetry) (ids : List Nat) (j : Nat) :
    (t.afterAll (releaseProviders ids)).providers[j]? =
      t.providers[j]?.map fun p =>
        if j ∈ ids then { p with closed := true, released := true } else p := by
  induction ids generalizing t with
  | nil => simp [releaseProviders]
  | cons i rest ih =>
    show ((t.after (.releaseProvider i)).afterAll (releaseProviders rest)).providers[j]? = _
    rw [ih, providers_after]
    show (t.providers.mapIdx _ ++ [])[j]?.map _ = _
    rw [List.append_nil, List.getElem?_mapIdx, Option.map_map]
    congr 1
    funext p
    simp only [Function.comp, Act.onProvider, List.mem_cons]
    by_cases hSame : i = j
    · subst hSame
      by_cases hRest : i ∈ rest <;> simp [hRest]
    · have hNe : ¬ j = i := fun h => hSame h.symm
      simp [hSame, hNe]

/-! ## Settling -/

/-- The spans that settling releases. -/
def looseSpans (t : Telemetry) (held : List Holding) : List Nat :=
  (List.range t.spans.length).filter (t.spanIsLoose held)

/-- What is there when settling has released the spans. -/
def withoutLooseSpans (t : Telemetry) (held : List Holding) : Telemetry :=
  t.afterAll (releaseSpans (t.looseSpans held))

/-- The providers that settling releases then. -/
def looseProviders (t : Telemetry) (held : List Holding) : List Nat :=
  (List.range t.providers.length).filter ((t.withoutLooseSpans held).providerIsLoose held)

/-- The releases by which settling comes about. -/
def releases (t : Telemetry) (held : List Holding) : List Act :=
  releaseSpans (t.looseSpans held) ++ releaseProviders (t.looseProviders held)

/-- Settling asks nobody to shut down. -/
theorem shutdown_not_mem_releases {t : Telemetry} {held : List Holding} {p : Nat} :
    Act.shutdown p ∉ t.releases held := by
  simp [releases, releaseSpans, releaseProviders]

/-- Doing something where a test says so is doing it where the test said so at first, if it changes
no other test. -/
private theorem foldl_test {f : Telemetry → Nat → Telemetry} {test : Telemetry → Nat → Bool}
    (h : ∀ t i j, i ≠ j → test (f t i) j = test t j) {ids : List Nat} (hNodup : ids.Nodup)
    (t : Telemetry) :
    ids.foldl (fun t i => if test t i then f t i else t) t = (ids.filter (test t)).foldl f t := by
  induction ids generalizing t with
  | nil => rfl
  | cons i rest ih =>
    obtain ⟨hNew, hRest⟩ := List.nodup_cons.1 hNodup
    rw [List.foldl_cons, ih hRest]
    by_cases hTest : test t i = true
    · have hSame : rest.filter (test (f t i)) = rest.filter (test t) := by
        refine List.filter_congr fun j hj => h t i j ?_
        rintro rfl
        exact hNew hj
      rw [if_pos hTest, hSame, List.filter_cons_of_pos hTest, List.foldl_cons]
    · rw [if_neg hTest, List.filter_cons_of_neg hTest]

/-- Releasing one span makes no other loose or not. -/
private theorem spanIsLoose_releaseSpan (held : List Holding) (t : Telemetry) {i j : Nat}
    (h : i ≠ j) : (t.releaseSpan i).spanIsLoose held j = t.spanIsLoose held j := by
  have hSpan := span_releaseSpans t [i] j
  have hNe : ¬ j = i := fun hj => h hj.symm
  unfold spanIsLoose
  rw [show (t.releaseSpan i).spans[j]? = _ from hSpan]
  simp [hNe]

/-- Releasing one provider makes no other loose or not. -/
private theorem providerIsLoose_releaseProvider (held : List Holding) (t : Telemetry) {i j : Nat}
    (h : i ≠ j) : (t.releaseProvider i).providerIsLoose held j = t.providerIsLoose held j := by
  have hProvider := provider_releaseProviders t [i] j
  have hNe : ¬ j = i := fun hj => h hj.symm
  unfold providerIsLoose
  rw [show (t.releaseProvider i).providers[j]? = _ from hProvider, spans_releaseProvider]
  simp [hNe]

theorem providers_withoutLooseSpans (t : Telemetry) (held : List Holding) :
    (t.withoutLooseSpans held).providers = t.providers := providers_releaseSpans t _

/-- Settling is a sequence of releases. -/
theorem settle_eq_afterAll (t : Telemetry) (held : List Holding) :
    t.settle held = t.afterAll (t.releases held) := by
  have hSpans : (List.range t.spans.length).foldl (settleSpan held) t =
      t.withoutLooseSpans held := by
    unfold withoutLooseSpans
    rw [afterAll_releaseSpans]
    exact foldl_test (fun t i j h => spanIsLoose_releaseSpan held t h) List.nodup_range t
  unfold settle releases
  dsimp only
  rw [hSpans, afterAll_append, providers_withoutLooseSpans, afterAll_releaseProviders]
  exact foldl_test (fun t i j h => providerIsLoose_releaseProvider held t h) List.nodup_range _

theorem mem_looseSpans {t : Telemetry} {held : List Holding} {id : Nat} :
    id ∈ t.looseSpans held ↔
      ∃ s, t.spans[id]? = some s ∧ s.released = false ∧ id ∉ reachedSpans held := by
  rw [← any_holdsSpan]
  unfold looseSpans spanIsLoose
  rw [List.mem_filter, List.mem_range]
  cases hSpan : t.spans[id]? with
  | none => simp
  | some s =>
    obtain ⟨hLt, -⟩ := List.getElem?_eq_some_iff.1 hSpan
    simp [hLt]

theorem spans_settle (t : Telemetry) (held : List Holding) :
    (t.settle held).spans = (t.withoutLooseSpans held).spans := by
  rw [settle_eq_afterAll, releases, afterAll_append, spans_releaseProviders]
  rfl

/-- Settling releases the loose spans and leaves the others as they are. -/
theorem span_settle (t : Telemetry) (held : List Holding) (id : Nat) :
    (t.settle held).spans[id]? =
      t.spans[id]?.map fun s => if id ∈ t.looseSpans held then s.afterRelease else s := by
  rw [spans_settle]
  exact span_releaseSpans t _ id

/-- Settling closes and releases the loose providers and leaves the others as they are. -/
theorem provider_settle (t : Telemetry) (held : List Holding) (p : Nat) :
    (t.settle held).providers[p]? =
      t.providers[p]?.map fun q =>
        if p ∈ t.looseProviders held then { q with closed := true, released := true } else q := by
  rw [settle_eq_afterAll, releases, afterAll_append, provider_releaseProviders,
    providers_releaseSpans]

/-- A provider is loose if it is not reached, and all its spans are released in the end. -/
theorem mem_looseProviders {t : Telemetry} {held : List Holding} {p : Nat} :
    p ∈ t.looseProviders held ↔
      ∃ q, t.providers[p]? = some q ∧ q.released = false ∧ p ∉ reachedProviders held ∧
        ∀ s ∈ (t.settle held).spans, s.provider? = some p → s.released = true := by
  rw [← any_holdsProvider, spans_settle]
  unfold looseProviders providerIsLoose
  rw [List.mem_filter, List.mem_range, providers_withoutLooseSpans]
  cases hProvider : t.providers[p]? with
  | none => simp
  | some q =>
    obtain ⟨hLt, -⟩ := List.getElem?_eq_some_iff.1 hProvider
    simp only [hLt, true_and, Option.any_some, Bool.and_eq_true, Bool.not_eq_true', and_assoc,
      Option.some.injEq, exists_eq_left', ← Bool.not_eq_true, List.any_eq_true]
    refine and_congr_right fun _ => and_congr_right fun _ => ?_
    constructor
    · intro hNone s hs hOf
      cases hReleased : s.released with
      | true => rfl
      | false => exact absurd ⟨s, hs, by simp [hReleased], by simp [hOf]⟩ hNone
    · rintro hAll ⟨s, hs, hKept, hOf⟩
      exact hKept (hAll s hs (by simpa using hOf))

end Telemetry

end SpanFlow
