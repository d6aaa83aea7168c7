import SpanFlow.Recording.Lifetime

/-!
# Telling exporters

Exporting, flushing and shutting down all go through the exporters of a provider in turn and call
each of them once. This module states them as one fold over the exporters, so that what holds of one
call holds of all three.

What an exporter was called with is its history, `callsOf`. It only grows, by one call for every
time that the exporter stands in the list, whatever any exporter answers.

## Main results

* `exportTo_eq_foldl`, `shutdownEach_eq_foldl`: both are folds of `tell`.
* `tells_exportTo`, `tells_shutdownEach`, `tells_flushEach`: the histories afterwards.
-/

namespace SpanFlow.Telemetry

/-- What an exporter was called with, in order. -/
def callsOf (t : Telemetry) (exporter : Nat) : List ExporterCall :=
  match t.exporters[exporter]? with
  | some e => e.calls
  | none => []

/-- Calls an exporter and reports an error that it answers with. -/
def tell (c : ExporterCall) (onFailure : ExportError → Diagnostic) (t : Telemetry) (id : Nat) :
    Telemetry :=
  match t.callExporter id c with
  | (t, some e) => t.report (onFailure e)
  | (t, none) => t

/-! ## The folds -/

/-- An export tells the exporters one after another. -/
theorem exportTo_eq_foldl (data : SpanData) (ids : List Nat) (t : Telemetry) :
    exportTo data ids t = ids.foldl (tell (.export [data]) .exportFailed) t := by
  induction ids generalizing t with
  | nil => rfl
  | cons id rest ih =>
    rw [exportTo, List.foldl_cons, tell]
    rcases t.callExporter id (.export [data]) with ⟨t', _ | e⟩ <;> exact ih _

/-- A shutdown tells the exporters one after another, and an error does not stop it. -/
theorem shutdownEach_eq_foldl (last? : Option ExportError) (ids : List Nat) (t : Telemetry) :
    (shutdownEach last? ids t).1 = ids.foldl (tell .shutdown .shutdownFailed) t := by
  induction ids generalizing t last? with
  | nil => rfl
  | cons id rest ih =>
    rw [shutdownEach, List.foldl_cons, tell]
    rcases t.callExporter id .shutdown with ⟨t', _ | e⟩
    · exact ih last? t'
    · exact ih (some e) _

theorem flushEach_eq_foldl (ids : List Nat) (t : Telemetry) :
    (flushEach ids t).1 = ids.foldl (fun t id => (t.callExporter id .flush).1) t := by
  induction ids generalizing t with
  | nil => rfl
  | cons id rest ih => exact ih _

/-! ## One call -/

@[simp] theorem log_callExporter (t : Telemetry) (id : Nat) (c : ExporterCall) :
    (t.callExporter id c).1.log = t.log := by
  unfold callExporter
  split <;> rfl

/-- A call goes into the history of the exporter that is called, and into no other. -/
theorem callsOf_callExporter (t : Telemetry) (id other : Nat) (c : ExporterCall)
    (hOther : other < t.exporters.length) :
    (t.callExporter id c).1.callsOf other =
      t.callsOf other ++ if id = other then [c] else [] := by
  unfold callExporter callsOf
  cases hId : t.exporters[id]? with
  | none =>
    have hNe : id ≠ other := by
      rintro rfl
      simp [hOther] at hId
    simp [hNe]
  | some e =>
    by_cases hSame : id = other
    · subst hSame
      simp [hId, List.getElem?_set_self hOther]
    · simp [List.getElem?_set_ne hSame, hSame]

/-- Telling is calling, up to the log. -/
theorem exporters_tell (c : ExporterCall) (onFailure : ExportError → Diagnostic) (t : Telemetry)
    (id : Nat) : (tell c onFailure t id).exporters = (t.callExporter id c).1.exporters := by
  unfold tell
  rcases t.callExporter id c with ⟨t', _ | e⟩ <;> rfl

/-! ## All calls -/

/-- On the way from `t` to `t'` no exporter is added, and each of them is called as `told` says. -/
structure Tells (t t' : Telemetry) (told : Nat → List ExporterCall) : Prop where
  length_eq : t'.exporters.length = t.exporters.length
  callsOf_eq : ∀ e, e < t.exporters.length → t'.callsOf e = t.callsOf e ++ told e

section Tells

variable {t t' t'' : Telemetry} {told others : Nat → List ExporterCall}

theorem callsOf_congr (h : t'.exporters = t.exporters) (e : Nat) : t'.callsOf e = t.callsOf e := by
  unfold callsOf
  rw [h]

theorem tells_nothing (h : t'.exporters = t.exporters) : Tells t t' fun _ => [] :=
  ⟨by rw [h], fun e _ => by rw [callsOf_congr h, List.append_nil]⟩

theorem Tells.trans (h : Tells t t' told) (h' : Tells t' t'' others) :
    Tells t t'' fun e => told e ++ others e := by
  have hLength := h.length_eq
  refine ⟨h'.length_eq.trans hLength, fun e he => ?_⟩
  rw [h'.callsOf_eq e (by omega), h.callsOf_eq e he, List.append_assoc]

/-- Only the exporters at the end matter. -/
theorem Tells.congr (h : Tells t t' told) (hSame : t''.exporters = t'.exporters) :
    Tells t t'' told := by
  simpa using h.trans (tells_nothing hSame)

/-- Only the exporters at the beginning matter. -/
theorem Tells.from (h : Tells t t' told) (hSame : t.exporters = t''.exporters) :
    Tells t'' t' told := by
  simpa using (tells_nothing hSame).trans h

/-- Any way of calling exporters in turn. -/
private theorem tells_foldl {f : Telemetry → Nat → Telemetry} {c : ExporterCall}
    (h : ∀ t id, (f t id).exporters = (t.callExporter id c).1.exporters) (ids : List Nat)
    (t : Telemetry) : Tells t (ids.foldl f t) fun e => List.replicate (ids.count e) c := by
  induction ids generalizing t with
  | nil => exact tells_nothing rfl
  | cons id rest ih =>
    have hOne : Tells t (f t id) fun e => if id = e then [c] else [] := by
      refine Tells.congr ⟨exporters_callExporter_length t id c, fun e he => ?_⟩ (h t id)
      exact callsOf_callExporter t id e c he
    have hAll := hOne.trans (ih (f t id))
    refine ⟨hAll.length_eq, fun e he => (hAll.callsOf_eq e he).trans ?_⟩
    rw [List.count_cons]
    by_cases hSame : id = e
    · simp [hSame, List.replicate_succ]
    · simp [hSame]

/-- An exporter is handed a span once for every time that it stands in the list. -/
theorem tells_exportTo (data : SpanData) (ids : List Nat) (t : Telemetry) :
    Tells t (exportTo data ids t) fun e => List.replicate (ids.count e) (.export [data]) := by
  rw [exportTo_eq_foldl]
  exact tells_foldl (exporters_tell _ _) ids t

/-- A shutdown reaches each exporter as often as it is listed. -/
theorem tells_shutdownEach (last? : Option ExportError) (ids : List Nat) (t : Telemetry) :
    Tells t (shutdownEach last? ids t).1 fun e => List.replicate (ids.count e) .shutdown := by
  rw [shutdownEach_eq_foldl]
  exact tells_foldl (exporters_tell _ _) ids t

/-- A flush reaches each exporter as often as it is listed. -/
theorem tells_flushEach (ids : List Nat) (t : Telemetry) :
    Tells t (flushEach ids t).1 fun e => List.replicate (ids.count e) .flush := by
  rw [flushEach_eq_foldl]
  exact tells_foldl (fun _ _ => rfl) ids t

end Tells

end SpanFlow.Telemetry
