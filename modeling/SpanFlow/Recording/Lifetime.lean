import SpanFlow.Recording.Provider

/-!
# Lifetimes

Spans and providers live as long as something holds them. A span is held by a name or by a context
that carries it; a provider by a name, by its tracers and by its spans, ended or not. What is held
no longer is released at once: a span ends, and a provider shuts down if it has not done so before.

`settle` releases, from the list of all that is held, what that list does not reach. Spans come
first, because the release of a span may be what lets a provider go.

## Main results

* `length_spans_settle`, `length_providers_settle`: releasing removes no span and no provider.
-/

namespace SpanFlow

/-- Something through which spans and providers are held. -/
inductive Holding where
  | context (cx : Context)
  | span (id : Nat)
  | tracer (t : Tracer)
  | provider (id : Nat)

namespace Holding

/-- Whether a span is held. -/
def holdsSpan (id : Nat) : Holding → Bool
  | context cx =>
    match cx.activeSpan? with
    | some s => s.span? == some id
    | none => false
  | span s => s == id
  | _ => false

/-- Whether a provider is held other than by a span. -/
def holdsProvider (id : Nat) : Holding → Bool
  | tracer t => t.provider == id
  | provider p => p == id
  | _ => false

end Holding

namespace Telemetry

/-- Whether a span that was not released is no longer held. -/
def spanIsLoose (t : Telemetry) (held : List Holding) (id : Nat) : Bool :=
  t.spans[id]?.any fun s => !s.released && !held.any (Holding.holdsSpan id)

/-- Whether a provider that was not released is no longer held. -/
def providerIsLoose (t : Telemetry) (held : List Holding) (id : Nat) : Bool :=
  t.providers[id]?.any fun p =>
    !p.released && !held.any (Holding.holdsProvider id) &&
      !t.spans.any fun s => !s.released && s.provider? == some id

/-- Releases a span: it ends, if it has not done so, at what the clock shows. -/
def releaseSpan (t : Telemetry) (id : Nat) : Telemetry :=
  (t.finish id t.now).modifySpan id fun s => { s with released := true }

/-- Releases a provider: it shuts down, and its exporters' errors are reported alone, or it is
reported that it had shut down before. -/
def releaseProvider (t : Telemetry) (id : Nat) : Telemetry :=
  let t := if t.isClosed id then t.report .releasedAfterShutdown else (t.close id).1
  t.modifyProvider id fun p => { p with released := true }

/-- Releases a span if it is loose. -/
def settleSpan (held : List Holding) (t : Telemetry) (id : Nat) : Telemetry :=
  if t.spanIsLoose held id then t.releaseSpan id else t

/-- Releases a provider if it is loose. -/
def settleProvider (held : List Holding) (t : Telemetry) (id : Nat) : Telemetry :=
  if t.providerIsLoose held id then t.releaseProvider id else t

/-- Releases all that is held no longer. -/
def settle (t : Telemetry) (held : List Holding) : Telemetry :=
  let t := (List.range t.spans.length).foldl (settleSpan held) t
  (List.range t.providers.length).foldl (settleProvider held) t

/-! ## What releasing leaves as it is -/

theorem spans_callExporter (t : Telemetry) (id : Nat) (c : ExporterCall) :
    (t.callExporter id c).1.spans = t.spans := by
  unfold callExporter
  split <;> rfl

theorem providers_callExporter (t : Telemetry) (id : Nat) (c : ExporterCall) :
    (t.callExporter id c).1.providers = t.providers := by
  unfold callExporter
  split <;> rfl

theorem spans_exportTo (data : SpanData) (ids : List Nat) (t : Telemetry) :
    (exportTo data ids t).spans = t.spans := by
  induction ids generalizing t with
  | nil => rfl
  | cons id rest ih =>
    rw [exportTo, ih]
    split <;> exact spans_callExporter t id _

theorem providers_exportTo (data : SpanData) (ids : List Nat) (t : Telemetry) :
    (exportTo data ids t).providers = t.providers := by
  induction ids generalizing t with
  | nil => rfl
  | cons id rest ih =>
    rw [exportTo, ih]
    split <;> exact providers_callExporter t id _

theorem spans_shutdownEach (last? : Option ExportError) (ids : List Nat) (t : Telemetry) :
    (shutdownEach last? ids t).1.spans = t.spans := by
  induction ids generalizing t last? with
  | nil => rfl
  | cons id rest ih =>
    have h := spans_callExporter t id .shutdown
    rw [shutdownEach]
    split <;> rename_i hCall <;> rw [ih] <;> rw [hCall] at h <;> exact h

theorem providers_shutdownEach (last? : Option ExportError) (ids : List Nat) (t : Telemetry) :
    (shutdownEach last? ids t).1.providers = t.providers := by
  induction ids generalizing t last? with
  | nil => rfl
  | cons id rest ih =>
    have h := providers_callExporter t id .shutdown
    rw [shutdownEach]
    split <;> rename_i hCall <;> rw [ih] <;> rw [hCall] at h <;> exact h

theorem length_spans_finish (t : Telemetry) (id : Nat) (time : Timestamp) :
    (t.finish id time).spans.length = t.spans.length := by
  unfold finish
  split
  · rfl
  · split
    · dsimp only
      split <;> simp [modifySpan, spans_exportTo]
    · rfl

theorem providers_finish (t : Telemetry) (id : Nat) (time : Timestamp) :
    (t.finish id time).providers = t.providers := by
  unfold finish
  split
  · rfl
  · split
    · dsimp only
      split <;> simp [modifySpan, providers_exportTo]
    · rfl

theorem length_spans_settleSpan (held : List Holding) (t : Telemetry) (id : Nat) :
    (settleSpan held t id).spans.length = t.spans.length := by
  unfold settleSpan
  split
  · simp [releaseSpan, modifySpan, length_spans_finish]
  · rfl

theorem providers_settleSpan (held : List Holding) (t : Telemetry) (id : Nat) :
    (settleSpan held t id).providers = t.providers := by
  unfold settleSpan
  split
  · simp [releaseSpan, modifySpan, providers_finish]
  · rfl

theorem spans_settleProvider (held : List Holding) (t : Telemetry) (id : Nat) :
    (settleProvider held t id).spans = t.spans := by
  unfold settleProvider releaseProvider close
  split
  · split
    · rfl
    · simp [modifyProvider, spans_shutdownEach]
  · rfl

theorem length_providers_settleProvider (held : List Holding) (t : Telemetry) (id : Nat) :
    (settleProvider held t id).providers.length = t.providers.length := by
  unfold settleProvider releaseProvider close
  split
  · split
    · simp [modifyProvider, report]
    · simp [modifyProvider, providers_shutdownEach]
  · rfl

theorem foldl_keeps {β : Type} (f : Telemetry → Nat → Telemetry) (view : Telemetry → β)
    (h : ∀ t id, view (f t id) = view t) (ids : List Nat) (t : Telemetry) :
    view (ids.foldl f t) = view t := by
  induction ids generalizing t with
  | nil => rfl
  | cons id rest ih => rw [List.foldl_cons, ih, h]

/-- Releasing removes no span. -/
theorem length_spans_settle (t : Telemetry) (held : List Holding) :
    (t.settle held).spans.length = t.spans.length := by
  unfold settle
  rw [foldl_keeps _ (fun t => t.spans) (spans_settleProvider held),
    foldl_keeps _ (fun t => t.spans.length) (length_spans_settleSpan held)]

/-- Releasing removes no provider. -/
theorem length_providers_settle (t : Telemetry) (held : List Holding) :
    (t.settle held).providers.length = t.providers.length := by
  unfold settle
  rw [foldl_keeps _ (fun t => t.providers.length) (length_providers_settleProvider held),
    foldl_keeps _ (fun t => t.providers) (providers_settleSpan held)]

end Telemetry

end SpanFlow
