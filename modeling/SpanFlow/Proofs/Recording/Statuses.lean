import Mathlib.Data.Prod.Lex
import Mathlib.Order.Bounds.Basic
import SpanFlow.Proofs.Recording.Additions
import SpanFlow.Proofs.Recording.Ledger
import SpanFlow.Proofs.Text.Bytes

/-!
# The status of a span

A status that is set counts only if it is greater than the one that is there. So a span has the
greatest of the statuses that were set on it, and of the one that it began with. In which order they
were set makes no difference to that, nor how often, nor what else was called in between; and what
is greatest of all, success, stays once it was set.

What is greater is decided by the kind of status first, and among errors by their descriptions, byte
by byte.

## Main results

* `Status.order_eq_gt_iff`: comparing statuses is comparing them in a linear order.
* `Status.join_eq_max`: setting a status on top of another one leaves the greater one.
* `status_applyAll`: the status of a record after calls.
* `status_greatest`: the status of a span that was started, before and when it ends.
-/

namespace SpanFlow

namespace Status

/-! ## The order of statuses -/

/-- The kind of a status, from the least to the greatest, and the bytes of a description. -/
def rank : Status → Nat ×ₗ List Nat
  | unset => toLex (0, [])
  | error description => toLex (1, Text.Utf8.codes description.toList)
  | ok => toLex (2, [])

theorem rank_injective : Function.Injective rank := by
  intro a b h
  cases a <;> cases b <;> simp only [rank, toLex_inj, Prod.mk.injEq] at h <;> try omega
  · rfl
  · rw [String.toList_inj.1 (Text.Utf8.codes_strictMono.injective h.2)]
  · rfl

instance : LinearOrder Status := LinearOrder.lift' rank rank_injective

theorem lt_iff_rank_lt {a b : Status} : a < b ↔ rank a < rank b := Iff.rfl

/-- Errors are ordered by the bytes of their descriptions. -/
theorem error_lt_error_iff {a b : String} :
    error a < error b ↔ Text.Utf8.codes a.toList < Text.Utf8.codes b.toList := by
  simp [lt_iff_rank_lt, rank, Prod.Lex.toLex_lt_toLex]

theorem unset_lt_error (description : String) : unset < error description := by
  simp [lt_iff_rank_lt, rank, Prod.Lex.toLex_lt_toLex]

theorem error_lt_ok (description : String) : error description < ok := by
  simp [lt_iff_rank_lt, rank, Prod.Lex.toLex_lt_toLex]

theorem unset_lt_ok : unset < ok := (unset_lt_error "").trans (error_lt_ok "")

theorem unset_le (s : Status) : unset ≤ s := by
  cases s with
  | unset => exact le_refl _
  | error description => exact (unset_lt_error description).le
  | ok => exact unset_lt_ok.le

theorem le_ok (s : Status) : s ≤ ok := by
  cases s with
  | unset => exact unset_lt_ok.le
  | error description => exact (error_lt_ok description).le
  | ok => exact le_refl _

/-- Comparing statuses is comparing them in a linear order. -/
theorem order_eq_gt_iff {a b : Status} : order a b = .gt ↔ b < a := by
  cases a <;> cases b
  case error.error => exact Text.order_eq_gt_iff.trans error_lt_error_iff.symm
  case error.unset => simp [order, unset_lt_error]
  case ok.unset => simp [order, unset_lt_ok]
  case ok.error => simp [order, error_lt_ok]
  case unset.unset | ok.ok => simp [order]
  case unset.error => simp [order, (unset_lt_error _).le]
  case unset.ok => simp [order, unset_lt_ok.le]
  case error.ok => simp [order, (error_lt_ok _).le]

/-- Setting a status on top of another one leaves the greater one. -/
theorem join_eq_max (old new : Status) : old.join new = max old new := by
  rw [join]
  split_ifs with hGreater
  · exact (max_eq_right (order_eq_gt_iff.1 hGreater).le).symm
  · exact (max_eq_left (not_lt.1 (mt order_eq_gt_iff.2 hGreater))).symm

/-- What is left of statuses that are set one after the other is the greatest of all. -/
theorem isGreatest_foldl_join (old : Status) (statuses : List Status) :
    IsGreatest {s | s = old ∨ s ∈ statuses} (statuses.foldl join old) := by
  induction statuses generalizing old with
  | nil =>
    refine ⟨.inl rfl, ?_⟩
    rintro s (rfl | hs)
    · exact le_refl _
    · cases hs
  | cons new rest ih =>
    obtain ⟨hMem, hUpper⟩ := ih (old.join new)
    rw [join_eq_max] at hMem hUpper
    rw [List.foldl_cons, join_eq_max]
    have hStart : max old new ≤ rest.foldl join (max old new) := hUpper (.inl rfl)
    constructor
    · rcases hMem with hStarted | hLater
      · rw [hStarted]
        rcases max_choice old new with hOld | hNew
        · exact .inl hOld
        · exact .inr (by rw [hNew]; exact List.mem_cons_self)
      · exact .inr (List.mem_cons_of_mem new hLater)
    · rintro s (rfl | hs)
      · exact (le_max_left _ _).trans hStart
      · rcases List.mem_cons.1 hs with rfl | hLater
        · exact (le_max_right _ _).trans hStart
        · exact hUpper (.inr hLater)

end Status

/-! ## The status of a record -/

/-- The status that a call sets. -/
def SpanCall.status? : SpanCall → Option Status
  | setStatus status => some status
  | _ => none

namespace SpanRecord

/-- Of the calls on a span only those that set a status make a difference. -/
theorem status_apply (l : Limits) (r : SpanRecord) (c : SpanCall) :
    (r.apply l c).status = c.status?.toList.foldl Status.join r.status := by
  cases c with
  | setAttributes attributes =>
    obtain ⟨_, _, hEq⟩ := exists_setAttributes_eq l attributes r
    rw [hEq]
    rfl
  | addEvent name time attributes =>
    obtain ⟨_, _, hEq⟩ := exists_addEvent_eq l name time attributes r
    rw [apply, hEq]
    rfl
  | recordError message time =>
    obtain ⟨_, _, hEq⟩ := exists_recordError_eq l message time r
    rw [hEq]
    rfl
  | addLink context attributes =>
    obtain ⟨_, _, hEq⟩ := exists_addLink_eq l context attributes r
    rw [apply, hEq]
    rfl
  | setStatus status | rename name | finish time => rfl

/-- Of calls on a span, those that set a status decide alone which one it has. -/
theorem status_applyAll (l : Limits) (r : SpanRecord) (calls : List SpanCall) :
    (r.applyAll l calls).status =
      (calls.filterMap SpanCall.status?).foldl Status.join r.status := by
  induction calls generalizing r with
  | nil => rfl
  | cons c rest ih =>
    rw [filterMap_cons_toList, List.foldl_append, ← status_apply l]
    exact ih (r.apply l c)

end SpanRecord

namespace Telemetry

/-! ## The status of a span -/

/-- The statuses that acts set on a span, in order. -/
def statusesSet (id : Nat) (acts : List Act) : List Status :=
  (callsOn id acts).filterMap SpanCall.status?

/-- What the end of a span hands on is what the span has recorded. -/
theorem exportsOf_end {t : Telemetry} (h : Sound t) {id : Nat} {data : SpanData}
    (hData : t.dataOf? id = some data) {a : Act} {time : Timestamp}
    (hEnds : a.ends? t.now = some (id, time)) (e : Nat) :
    ∃ n, (t.after a).exportsOf e =
      t.exportsOf e ++ List.replicate n (.export [{ data with finish := time }]) := by
  rw [exportsOf_after h, hEnds, Option.bind_some]
  obtain ⟨s, hSpan, hRecord⟩ := Option.bind_eq_some_iff.1 hData
  obtain ⟨p, hProvider⟩ := Span.provider?_of_data? hRecord
  have hDelivery : t.delivery? id time =
      if t.isClosed p || !s.context.isSampled then none
      else some (p, { data with finish := time }) := by
    simp only [delivery?, hSpan, hRecord, hProvider, Option.bind_eq_bind, Option.bind_some]
  rw [hDelivery]
  split
  · exact ⟨0, rfl⟩
  · exact ⟨(t.exportersOf p).count e, rfl⟩

section Started

variable {before : List Act} {tracer : Tracer} {name : String} {cx : Context} {p : Provider}
  (h : StartsRecording (empty.afterAll before) tracer name cx p)
include h

/-- A span that was started and has not ended has the greatest of the statuses that were set. -/
theorem isGreatest_status {acts : List Act}
    (hLasts : Outlives ((empty.afterAll before).start tracer name cx).2 acts) :
    ∃ data, (((empty.afterAll before).start tracer name cx).1.afterAll acts).dataOf?
        ((empty.afterAll before).start tracer name cx).2 = some data ∧
      IsGreatest {s | s = .unset ∨
        s ∈ statusesSet ((empty.afterAll before).start tracer name cx).2 acts} data.status := by
  obtain ⟨data, hData, hRecord⟩ := data_afterAll h hLasts
  refine ⟨data, hData, ?_⟩
  -- The sampler's call, which is the first, writes attributes and sets no status.
  rw [hRecord, SpanRecord.status_applyAll]
  exact Status.isGreatest_foldl_join .unset _

/-- **The greatest status.** A span that was started has, as long as it lasts, the greatest of the
statuses that were set on it, and it is handed on with that one when it ends. Any other acts by
which the same statuses are set lead to the same one, in whatever order and however often they are
set, and whatever else happens. Once success was set nothing changes the status. -/
theorem status_greatest {acts : List Act}
    (hLasts : Outlives ((empty.afterAll before).start tracer name cx).2 acts) :
    let id := ((empty.afterAll before).start tracer name cx).2
    let after (acts : List Act) := ((empty.afterAll before).start tracer name cx).1.afterAll acts
    ∃ data, (after acts).dataOf? id = some data ∧
      IsGreatest {s | s = .unset ∨ s ∈ statusesSet id acts} data.status ∧
      (∀ a time, a.ends? (after acts).now = some (id, time) → ∀ e, ∃ n,
        ((after acts).after a).exportsOf e =
          (after acts).exportsOf e ++ List.replicate n (.export [{ data with finish := time }])) ∧
      ∀ others, Outlives id others → ∃ data', (after others).dataOf? id = some data' ∧
        ((∀ s, s ∈ statusesSet id others ↔ s ∈ statusesSet id acts) →
          data'.status = data.status) ∧
        (.ok ∈ statusesSet id acts → acts <+: others → data'.status = .ok) := by
  intro id after
  obtain ⟨data, hData, hGreatest⟩ := isGreatest_status h hLasts
  have hSound : Sound (after acts) :=
    sound_afterAll ((sound_afterAll sound_empty before).after (.start tracer name cx)) acts
  refine ⟨data, hData, hGreatest, fun a time hEnds e => exportsOf_end hSound hData hEnds e,
    fun others hOthers => ?_⟩
  obtain ⟨data', hData', hGreatest'⟩ := isGreatest_status h hOthers
  refine ⟨data', hData', fun hSame => ?_, fun hOk hMore => ?_⟩
  · have hSet : {s | s = .unset ∨ s ∈ statusesSet id others} =
        {s | s = .unset ∨ s ∈ statusesSet id acts} := Set.ext fun s => or_congr_right (hSame s)
    rw [hSet] at hGreatest'
    exact hGreatest'.unique hGreatest
  · obtain ⟨more, rfl⟩ := hMore
    have hStill : Status.ok ∈ statusesSet id (acts ++ more) := by
      rw [statusesSet, callsOn, List.filterMap_append, List.filterMap_append]
      exact List.mem_append_left _ hOk
    exact le_antisymm (Status.le_ok _) (hGreatest'.2 (.inr hStill))

end Started

/-- Two errors are set and then the least status, in this order and backwards. The description with
the greater bytes is left, and the span is handed on with it. Set before them, success is left. -/
theorem status_greatest_backwards :
    let before : List Act := [.exporter .memory,
      .provider ⟨[0], some .alwaysOn, some (.counting 1 1), some (.constant .standard)⟩ .plain]
    let t := ((empty.afterAll before).start ⟨"tracer", 0⟩ "span" .root).1
    let errors : List Act := [.call 0 (.setStatus (.error "é")), .call 0 (.rename "renamed"),
      .callActive ⟨.none, some 0⟩ (.setStatus (.error "zz")), .call 0 (.setStatus .unset)]
    (∃ data, data.status = .error "é" ∧
      ((t.afterAll errors).after (.releaseSpan 0)).exportsOf 0 = [.export [data]]) ∧
    (∃ data, (t.afterAll errors.reverse).dataOf? 0 = some data ∧ data.status = .error "é") ∧
    ∃ data, (t.afterAll (.call 0 (.setStatus .ok) :: errors)).dataOf? 0 = some data ∧
      data.status = .ok := by
  intro before t errors
  have hStarts : StartsRecording (empty.afterAll before) ⟨"tracer", 0⟩ "span" .root
      ⟨[0], .alwaysOn, .counting 1 1, .constant .standard, false, false⟩ := ⟨rfl, rfl, nofun⟩
  have hBytes : Status.error "zz" < .error "é" := Status.error_lt_error_iff.2 (by decide)
  have hErrors : IsGreatest {s | s = .unset ∨ s ∈ statusesSet 0 errors} (.error "é") := by
    have hStatuses : statusesSet 0 errors = [.error "é", .error "zz", .unset] := rfl
    rw [hStatuses]
    constructor
    · exact Or.inr List.mem_cons_self
    rintro s (rfl | hs)
    · exact Status.unset_le _
    · simp only [List.mem_cons, List.not_mem_nil, or_false] at hs
      rcases hs with rfl | rfl | rfl
      · exact le_refl _
      · exact hBytes.le
      · exact Status.unset_le _
  obtain ⟨data, -, hGreatest, hExports, hOthers⟩ :=
    status_greatest hStarts (show Outlives 0 errors by decide)
  have hStatus := hGreatest.unique hErrors
  refine ⟨?_, ?_, ?_⟩
  · obtain ⟨n, hExported⟩ := hExports (.releaseSpan 0) _ rfl 0
    have hNone : (t.afterAll errors).exportsOf 0 = [] := rfl
    have hCount : (((t.afterAll errors).after (.releaseSpan 0)).exportsOf 0).length = 1 := by
      decide +kernel
    obtain rfl : n = 1 := by
      rwa [hExported, hNone, List.nil_append, List.length_replicate] at hCount
    exact ⟨{ data with finish := (t.afterAll errors).now }, hStatus, hExported⟩
  · obtain ⟨data', hData', hSame, -⟩ := hOthers errors.reverse (by decide)
    have hPerm : (statusesSet 0 errors.reverse).Perm (statusesSet 0 errors) :=
      List.reverse_perm (statusesSet 0 errors)
    exact ⟨data', hData', (hSame fun _ => hPerm.mem_iff).trans hStatus⟩
  · obtain ⟨_, -, -, -, hLater⟩ := status_greatest hStarts
      (show Outlives 0 [.call 0 (.setStatus .ok)] by decide)
    obtain ⟨data', hData', -, hOk⟩ := hLater (.call 0 (.setStatus .ok) :: errors) (by decide)
    exact ⟨data', hData', hOk List.mem_cons_self ⟨errors, rfl⟩⟩

end Telemetry

end SpanFlow
