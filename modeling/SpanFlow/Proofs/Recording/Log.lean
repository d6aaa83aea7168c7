import SpanFlow.Proofs.Recording.Telling

/-!
# What recording reports

The log only ever grows at its end. This module says for every operation on spans and providers what
it may add there: an export adds only failures to export, a shutdown only failures to shut down, and
so on. None of them reports a guard that was closed out of turn.

## Main results

* `adds_finish`, `adds_close`, `adds_settle`: what ending a span, shutting a provider down and
  releasing report.
-/

namespace SpanFlow.Telemetry

/-- The log of `t'` is that of `t` with reports behind it that all pass `ok`. -/
def Adds (ok : Diagnostic → Prop) (t t' : Telemetry) : Prop :=
  ∃ reports : List Diagnostic, t'.log = t.log ++ reports ∧ ∀ d ∈ reports, ok d

/-- The reports that exporters give rise to, and the one about a provider that was shut down before
it was released. -/
def IsExporterReport : Diagnostic → Prop
  | .exportFailed _ | .shutdownFailed _ | .releasedAfterShutdown => True
  | _ => False

section Adds

variable {ok : Diagnostic → Prop} {t t' t'' : Telemetry}

theorem adds_of_log_eq (h : t'.log = t.log) : Adds ok t t' :=
  ⟨[], by simp [h], by simp⟩

theorem Adds.refl : Adds ok t t := adds_of_log_eq rfl

theorem Adds.trans (h : Adds ok t t') (h' : Adds ok t' t'') : Adds ok t t'' := by
  obtain ⟨first, hFirst, hOk⟩ := h
  obtain ⟨others, hOthers, hOk'⟩ := h'
  refine ⟨first ++ others, by rw [hOthers, hFirst, List.append_assoc], fun d hd => ?_⟩
  rcases List.mem_append.1 hd with hd | hd
  · exact hOk d hd
  · exact hOk' d hd

theorem Adds.mono {other : Diagnostic → Prop} (h : Adds ok t t') (hOk : ∀ d, ok d → other d) :
    Adds other t t' := by
  obtain ⟨reports, hLog, hAll⟩ := h
  exact ⟨reports, hLog, fun d hd => hOk d (hAll d hd)⟩

theorem adds_report {d : Diagnostic} (h : ok d) : Adds ok t (t.report d) :=
  ⟨[d], rfl, by simpa using h⟩

theorem adds_foldl {f : Telemetry → Nat → Telemetry} (h : ∀ t id, Adds ok t (f t id))
    (ids : List Nat) (t : Telemetry) : Adds ok t (ids.foldl f t) := by
  induction ids generalizing t with
  | nil => exact .refl
  | cons id rest ih => exact (h t id).trans (ih (f t id))

end Adds

/-! ## The operations -/

theorem adds_tell {ok : Diagnostic → Prop} {onFailure : ExportError → Diagnostic}
    (h : ∀ e, ok (onFailure e)) (c : ExporterCall) (t : Telemetry) (id : Nat) :
    Adds ok t (tell c onFailure t id) := by
  have hLog := log_callExporter t id c
  unfold tell
  split <;> rename_i hCall <;> rw [hCall] at hLog
  · exact (adds_of_log_eq hLog).trans (adds_report (h _))
  · exact adds_of_log_eq hLog

theorem adds_exportTo (data : SpanData) (ids : List Nat) (t : Telemetry) :
    Adds IsExporterReport t (exportTo data ids t) := by
  rw [exportTo_eq_foldl]
  exact adds_foldl (adds_tell (fun _ => trivial) _) ids t

theorem adds_shutdownEach (last? : Option ExportError) (ids : List Nat) (t : Telemetry) :
    Adds IsExporterReport t (shutdownEach last? ids t).1 := by
  rw [shutdownEach_eq_foldl]
  exact adds_foldl (adds_tell (fun _ => trivial) _) ids t

/-- A shutdown reports only what exporters answer. -/
theorem adds_close (t : Telemetry) (provider : Nat) :
    Adds IsExporterReport t (t.close provider).1 :=
  (adds_of_log_eq rfl).trans (adds_shutdownEach none _ _)

/-- Ending a span reports only what exporters answer. -/
theorem adds_finish (t : Telemetry) (id : Nat) (time : Timestamp) :
    Adds IsExporterReport t (t.finish id time) := by
  unfold finish
  split
  · exact .refl
  · split
    · dsimp only
      split
      · exact adds_of_log_eq rfl
      · exact (adds_of_log_eq rfl).trans (adds_exportTo _ _ _)
    · exact .refl

theorem adds_settleSpan (held : List Holding) (t : Telemetry) (id : Nat) :
    Adds IsExporterReport t (settleSpan held t id) := by
  unfold settleSpan
  split
  · exact (adds_finish t id t.now).trans (adds_of_log_eq rfl)
  · exact .refl

theorem adds_settleProvider (held : List Holding) (t : Telemetry) (id : Nat) :
    Adds IsExporterReport t (settleProvider held t id) := by
  unfold settleProvider releaseProvider
  split
  · split
    · exact (adds_report trivial).trans (adds_of_log_eq rfl)
    · exact (adds_close t id).trans (adds_of_log_eq rfl)
  · exact .refl

/-- Releasing what is loose reports only what exporters answer. -/
theorem adds_settle (t : Telemetry) (held : List Holding) :
    Adds IsExporterReport t (t.settle held) :=
  (adds_foldl (adds_settleSpan held) _ t).trans (adds_foldl (adds_settleProvider held) _ _)

/-- Releasing what is held no longer never reports a guard closed out of turn. -/
theorem adds_settle_ne_outOfOrderClose (t : Telemetry) (held : List Holding) :
    Adds (· ≠ .outOfOrderClose) t (t.settle held) := by
  refine (adds_settle t held).mono fun d hd => ?_
  rintro rfl
  exact hd

end SpanFlow.Telemetry
