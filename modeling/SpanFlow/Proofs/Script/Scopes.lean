import SpanFlow.Proofs.Script.Keeping
import SpanFlow.Script.Carrying
import SpanFlow.Script.Contexts

/-!
# Steps on contexts and on work that carries them

Steps that derive, attach and wrap contexts take no handle. A context that is derived carries the
span of the one that it is derived from, and work runs under a context that it has been given.

## Main results

* `leaves_attach`, `backed_closeScope`: attaching a context and closing its guard.
* `keeps_callWork`, `keeps_execute`, `keeps_poll`: work keeps a session backed if its body does.
-/

namespace SpanFlow.Script

open Session

variable {C : Course}

/-! ## Steps on contexts and scopes -/

theorem keeps_makeKey (target name : String) : Keeps C (makeKey target name) := by
  rintro w ⟨E, h⟩
  exact ⟨E, { h with }⟩

theorem keeps_copyKey (target key : String) : Keeps C (copyKey target key) := by
  rintro w ⟨E, h⟩
  exact leaves_named ⟨E, h⟩ fun k _ => ⟨E, { h with }⟩

theorem keeps_share (target value : String) : Keeps C (share target value) := by
  rintro w ⟨E, h⟩
  exact ⟨E, { h with shared := h.shared.insert _ rfl }⟩

theorem keeps_bind (flow : Nat) (target : String) (cx? : Option String) (key value : String) :
    Keeps C (bind flow target cx? key value) := by
  rintro w ⟨E, h⟩
  refine leaves_contextOr h fun cx hcx => leaves_named ⟨E, h⟩ fun k _ => ?_
  exact leaves_storeContext h.fresh target (hcx.withText _ _ _)

theorem keeps_bindShared (target cx key shared : String) :
    Keeps C (bindShared target cx key shared) := by
  rintro w ⟨E, h⟩
  refine leaves_named ⟨E, h⟩ fun cx hcx => leaves_named ⟨E, h⟩ fun k _ =>
    leaves_named ⟨E, h⟩ fun b hb => ?_
  exact leaves_storeContext h.fresh target
    ((h.contexts.of_get? hcx).withShared (h.shared.of_get? hb) _ _)

/-- What is attached must be backed, and the guard then holds it. -/
theorem leaves_attach {E : Estate} {w : State} (h : BackedBy C E w) (flow : Nat) {cx : Context}
    (hcx : E.Backs (.context cx)) (guard : String) : Leaves C (attach flow cx guard) w := by
  have hPushed : BackedBy C E (pushScope flow guard w.supply (w.openGuard flow cx).2) :=
    (h.openGuard flow hcx).modifyFlow flow _
  exact ⟨E, hPushed⟩

/-- Closing the guard of a scope keeps a session backed. -/
theorem backed_closeScope {w : State} (h : Backed C w) (flow guard : Nat) :
    Backed C (closeScope flow guard w) := by
  obtain ⟨E, hE⟩ := h
  exact Backed.closeGuard ⟨E, hE.modifyFlow flow _⟩ flow guard

theorem readsOnly_scopeNamed (flow : Nat) (name : String) : ReadsOnly (scopeNamed flow name) := by
  refine (readsOnly_ask _).bind fun s? => ?_
  cases s? with
  | none => exact readsOnly_throw _
  | some s => exact readsOnly_pure s

theorem keeps_closeNamed (flow : Nat) (name : String) : Keeps C (closeNamed flow name) :=
  (readsOnly_scopeNamed flow name).keeps.bind fun s _ hw => backed_closeScope hw flow s.guard

/-! ## Steps that carry contexts -/

theorem backed_modifyFuture {E : Estate} {w : State} (h : BackedBy C E w) (name : String)
    {f : Future Body → Future Body} (hf : ∀ x, (f x).context? = x.context?) :
    BackedBy C E (modifyFuture name f w) := by
  unfold modifyFuture
  split
  · rename_i x hx
    exact { h with futures := h.futures.insert _ (hf x ▸ h.futures.of_get? hx) }
  · exact h

theorem backed_modifyStream {E : Estate} {w : State} (h : BackedBy C E w) (name : String)
    {f : Stream Body → Stream Body} (hf : ∀ x, (f x).context? = x.context?) :
    BackedBy C E (modifyStream name f w) := by
  unfold modifyStream
  split
  · rename_i x hx
    exact { h with streams := h.streams.insert _ (hf x ▸ h.streams.of_get? hx) }
  · exact h

section Carrying

variable {run : Runner} (hRun : ∀ flow body, Keeps C (run flow body))
include hRun

/-- Work that is called keeps a session backed if its body does. -/
theorem keeps_callWork (flow : Nat) (name : String) : Keeps C (callWork run flow name) := by
  rintro w ⟨E, h⟩
  refine leaves_named ⟨E, h⟩ fun work hWork => ?_
  have hcx := h.works.of_get? hWork
  by_cases hOnce : work.once = true
  · simp only [hOnce, if_true]
    have hTaken : BackedBy C E { w with works := Assoc.erase w.works name } :=
      { h with works := h.works.erase name }
    exact leaves_under (hRun flow work.body _ ⟨E, hTaken.openGuard flow hcx⟩)
  · simp only [hOnce]
    exact leaves_keeping (leaves_under (hRun flow work.body _ ⟨E, (h.pin hcx).openGuard flow hcx⟩))

theorem keeps_callTogether (name : String) (count : Nat) :
    Keeps C (callTogether run name count) := by
  induction count with
  | zero => exact (readsOnly_pure _).keeps
  | succ count ih =>
    refine (keeps_onNewFlow fun flow => keeps_callWork hRun flow name).bind fun first => ?_
    exact ih.bind fun others => (readsOnly_pure _).keeps

theorem keeps_execute (flow : Nat) (name : String) (body : Body) :
    Keeps C (execute run flow name body) := by
  rintro w ⟨E, h⟩
  refine leaves_named ⟨E, h⟩ fun executor hExecutor => ?_
  have hOwn := h.executors.of_get? hExecutor
  have hInline : ∀ cx, E.Backs (.context cx) →
      Leaves C (keeping (.context cx) (under flow cx (run flow body))) w := fun cx hcx =>
    leaves_keeping (leaves_under (hRun flow body _ ⟨E, (h.pin hcx).openGuard flow hcx⟩))
  have hThread : ∀ cx, E.Backs (.context cx) →
      Leaves C (keeping (.context cx)
        (onNewFlow fun other => under other cx (run other body))) w := by
    intro cx hcx
    have hFlow := (h.pin hcx).beginFlow
    exact leaves_keeping ((leaves_under (hRun _ body _ ⟨E, hFlow.openGuard _ hcx⟩)).endFlow _)
  have hQueue : ∀ cx, E.Backs (.context cx) →
      Backed C { w with queue := w.queue ++ [(cx, body)] } := by
    intro cx hcx
    refine ⟨E, { h with queue := fun x hx => ?_ }⟩
    rcases List.mem_append.1 hx with hOld | hNew
    · exact h.queue x hOld
    · rw [List.mem_singleton.1 hNew]
      exact hcx
  obtain ⟨_ | cx, mode⟩ := executor
  · have hcx := h.backs_current flow
    refine leaves_ask ?_
    cases mode with
    | inline => exact hInline _ hcx
    | thread => exact hThread _ hcx
    | queue => exact leaves_modify (hQueue _ hcx)
  · have hcx := hOwn cx rfl
    refine leaves_pure ?_
    cases mode with
    | inline => exact hInline cx hcx
    | thread => exact hThread cx hcx
    | queue => exact leaves_modify (hQueue cx hcx)

theorem keeps_runQueue (flow fuel : Nat) : Keeps C (runQueue run flow fuel) := by
  induction fuel with
  | zero => exact (readsOnly_throw _).keeps
  | succ fuel ih =>
    rintro w ⟨E, h⟩
    unfold runQueue
    refine leaves_get ?_
    cases hQueue : w.queue with
    | nil => exact ⟨E, h⟩
    | cons x rest =>
      obtain ⟨cx, body⟩ := x
      have hTaken : BackedBy C E { w with queue := rest } :=
        { h with queue := fun y hy => h.queue y (hQueue ▸ List.mem_cons_of_mem _ hy) }
      have hcx : E.Backs (.context cx) := h.queue (cx, body) (hQueue ▸ List.mem_cons_self ..)
      have hFirst : ∀ guard, Keeps C (always (run flow body) fun w => w.closeGuard flow guard) :=
        fun guard w hw => (hRun flow body w hw).closeGuard flow guard
      refine leaves_change ?_
      exact ((hFirst _).bind fun first => ih.bind fun others => (readsOnly_pure _).keeps) _
        ⟨E, hTaken.openGuard flow hcx⟩

/-- Work that is polled keeps a session backed if the part of it that runs does. -/
theorem keeps_poll (flow : Nat) (name : String) : Keeps C (poll run flow name) := by
  rintro w ⟨E, h⟩
  refine leaves_named ⟨E, h⟩ fun future hFuture => ?_
  have hcx := h.futures.of_get? hFuture
  cases hRest : future.rest with
  | nil =>
    exact leaves_bind (leaves_underOptional h hcx (readsOnly_pure _).keeps)
      fun done => (readsOnly_pure _).keeps
  | cons body rest =>
    have hTaken := backed_modifyFuture h name (f := fun x => { x with rest := rest }) fun _ => rfl
    refine leaves_modify (leaves_bind (leaves_underOptional hTaken hcx (hRun flow body)) ?_)
    rintro ran w' ⟨E', h'⟩
    split
    · exact ⟨E', h'⟩
    · exact leaves_modify ⟨E', backed_modifyFuture h' name fun _ => rfl⟩

theorem keeps_pollNext (flow : Nat) (name : String) : Keeps C (pollNext run flow name) := by
  rintro w ⟨E, h⟩
  refine leaves_named ⟨E, h⟩ fun stream hStream => ?_
  have hcx := h.streams.of_get? hStream
  cases hRest : stream.rest with
  | nil =>
    exact leaves_bind (leaves_underOptional h hcx (readsOnly_pure _).keeps)
      fun done => (readsOnly_pure _).keeps
  | cons item rest =>
    have hTaken := backed_modifyStream h name (f := fun x => { x with rest := rest }) fun _ => rfl
    refine leaves_modify (leaves_bind (leaves_underOptional hTaken hcx (hRun flow item.body)) ?_)
    rintro ran w' ⟨E', h'⟩
    split
    · exact ⟨E', h'⟩
    · exact leaves_modify ⟨E', backed_modifyStream h' name fun _ => rfl⟩

theorem keeps_callSink (flow : Nat) (name : String) (call : SinkCall) :
    Keeps C (callSink run flow name call) := by
  rintro w ⟨E, h⟩
  refine leaves_named ⟨E, h⟩ fun sink hSink => ?_
  have hcx := h.sinks.of_get? hSink
  have hTold : BackedBy C E { w with
      sinks := Assoc.insert w.sinks name { sink with sum := sumAfter sink.sum call } } :=
    { h with sinks := h.sinks.insert _ hcx }
  exact leaves_modify (leaves_bind (leaves_underOptional hTold hcx (hRun flow sink.body))
    fun ran => (readsOnly_pure _).keeps)

end Carrying

theorem keeps_makeExecutor (target : String) (cx? : Option String) (mode : RunMode) :
    Keeps C (makeExecutor target cx? mode) := by
  rintro w ⟨E, h⟩
  refine leaves_optional h fun context? hcx => ?_
  have hMade : Backed C
      { w with executors := Assoc.insert w.executors target ⟨context?, mode⟩ }.settle :=
    Backed.settle ⟨E, { h with executors := h.executors.insert _ hcx }⟩
  cases context? with
  | none => exact hMade
  | some cx => exact hMade

theorem keeps_makeFuture (flow : Nat) (target : String) (cx? : Option String)
    (polls : List Body) : Keeps C (makeFuture flow target cx? polls) := by
  rintro w ⟨E, h⟩
  refine leaves_contextOr h fun cx hcx => ?_
  exact Backed.settle ⟨E, { h with futures := h.futures.insert _ (by simpa using hcx) }⟩

theorem keeps_makeStream (flow : Nat) (target : String) (cx? : Option String)
    (items : List (StreamItem Body)) : Keeps C (makeStream flow target cx? items) := by
  rintro w ⟨E, h⟩
  refine leaves_contextOr h fun cx hcx => ?_
  exact Backed.settle ⟨E, { h with streams := h.streams.insert _ (by simpa using hcx) }⟩

theorem keeps_makeSink (flow : Nat) (target : String) (cx? : Option String) (body : Body)
    (failing? : Option String) : Keeps C (makeSink flow target cx? body failing?) := by
  rintro w ⟨E, h⟩
  refine leaves_contextOr h fun cx hcx => ?_
  exact Backed.settle ⟨E, { h with sinks := h.sinks.insert _ (by simpa using hcx) }⟩

theorem keeps_takeOff (kind : CarriedKind) (name : String) : Keeps C (takeOff kind name) := by
  rintro w ⟨E, h⟩
  cases kind with
  | future =>
    refine leaves_named ⟨E, h⟩ fun x _ => ?_
    exact Backed.settle ⟨E, { h with futures := h.futures.insert _ (fun _ hNone => nomatch hNone) }⟩
  | stream =>
    refine leaves_named ⟨E, h⟩ fun x _ => ?_
    exact Backed.settle ⟨E, { h with streams := h.streams.insert _ (fun _ hNone => nomatch hNone) }⟩
  | sink =>
    refine leaves_named ⟨E, h⟩ fun x _ => ?_
    exact Backed.settle ⟨E, { h with sinks := h.sinks.insert _ (fun _ hNone => nomatch hNone) }⟩

end SpanFlow.Script
