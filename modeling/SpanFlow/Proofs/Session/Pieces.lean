import SpanFlow.Session.World
import Mathlib.Order.Defs.Unbundled

/-!
# Pieces of work

A session keeps work under names, each kind under names of its own, and work that waits in the
queue. Whatever carries a context has captured it when it was made. `carried?` says which context
that is, and `Retains` that it is still so: a piece may be gone, but as long as it is there it
carries what it carried. In the queue work has only been put behind what was there.

## Main results

* `Retains.trans`: what is carried is retained over any number of changes.
* `Retains.of_carrying_eq`: what has nothing to do with work retains what is carried.
-/

namespace SpanFlow.Session

variable {β : Type}

/-- A piece of work under a name. -/
inductive Piece where
  | work (name : String)
  | executor (name : String)
  | future (name : String)
  | stream (name : String)
  | sink (name : String)
  deriving DecidableEq

/-- What a session has to do with work. -/
structure Carrying (β : Type) where
  works : Assoc String (Work β)
  executors : Assoc String Executor
  futures : Assoc String (Future β)
  streams : Assoc String (Stream β)
  sinks : Assoc String (Sink β)
  queue : List (Context × β)

namespace World

/-- The work of a session. -/
def carrying (w : World β) : Carrying β :=
  ⟨w.works, w.executors, w.futures, w.streams, w.sinks, w.queue⟩

/-- What a piece of work carries, if there is such a piece: a context, or none. -/
def carried? (w : World β) : Piece → Option (Option Context)
  | .work name => (Assoc.get? w.works name).map fun x => some x.context
  | .executor name => (Assoc.get? w.executors name).map Executor.context?
  | .future name => (Assoc.get? w.futures name).map Future.context?
  | .stream name => (Assoc.get? w.streams name).map Stream.context?
  | .sink name => (Assoc.get? w.sinks name).map Sink.context?

theorem carried?_congr {w w' : World β} (h : w'.carrying = w.carrying) (k : Piece) :
    w'.carried? k = w.carried? k := by
  have hWorks : w'.works = w.works := congrArg Carrying.works h
  have hExecutors : w'.executors = w.executors := congrArg Carrying.executors h
  have hFutures : w'.futures = w.futures := congrArg Carrying.futures h
  have hStreams : w'.streams = w.streams := congrArg Carrying.streams h
  have hSinks : w'.sinks = w.sinks := congrArg Carrying.sinks h
  cases k <;> simp only [carried?, hWorks, hExecutors, hFutures, hStreams, hSinks]

/-! ### Changes of one piece -/

section OnePiece

variable (w : World β) (name : String)

theorem carried?_insert_work (x : Work β) (k : Piece) :
    carried? { w with works := Assoc.insert w.works name x } k =
      if k = .work name then some (some x.context) else w.carried? k := by
  cases k <;> simp only [carried?, Assoc.get?_insert, Piece.work.injEq, reduceCtorEq, if_false,
    eq_comm (a := name)]
  split <;> rfl

theorem carried?_insert_executor (x : Executor) (k : Piece) :
    carried? { w with executors := Assoc.insert w.executors name x } k =
      if k = .executor name then some x.context? else w.carried? k := by
  cases k <;> simp only [carried?, Assoc.get?_insert, Piece.executor.injEq, reduceCtorEq, if_false,
    eq_comm (a := name)]
  split <;> rfl

theorem carried?_insert_future (x : Future β) (k : Piece) :
    carried? { w with futures := Assoc.insert w.futures name x } k =
      if k = .future name then some x.context? else w.carried? k := by
  cases k <;> simp only [carried?, Assoc.get?_insert, Piece.future.injEq, reduceCtorEq, if_false,
    eq_comm (a := name)]
  split <;> rfl

theorem carried?_insert_stream (x : Stream β) (k : Piece) :
    carried? { w with streams := Assoc.insert w.streams name x } k =
      if k = .stream name then some x.context? else w.carried? k := by
  cases k <;> simp only [carried?, Assoc.get?_insert, Piece.stream.injEq, reduceCtorEq, if_false,
    eq_comm (a := name)]
  split <;> rfl

theorem carried?_insert_sink (x : Sink β) (k : Piece) :
    carried? { w with sinks := Assoc.insert w.sinks name x } k =
      if k = .sink name then some x.context? else w.carried? k := by
  cases k <;> simp only [carried?, Assoc.get?_insert, Piece.sink.injEq, reduceCtorEq, if_false,
    eq_comm (a := name)]
  split <;> rfl

theorem carried?_erase_work (k : Piece) :
    carried? { w with works := Assoc.erase w.works name } k =
      if k = .work name then none else w.carried? k := by
  cases k <;> simp only [carried?, Assoc.get?_erase, Piece.work.injEq, reduceCtorEq, if_false,
    eq_comm (a := name)]
  split <;> rfl

theorem carried?_erase_future (k : Piece) :
    carried? { w with futures := Assoc.erase w.futures name } k =
      if k = .future name then none else w.carried? k := by
  cases k <;> simp only [carried?, Assoc.get?_erase, Piece.future.injEq, reduceCtorEq, if_false,
    eq_comm (a := name)]
  split <;> rfl

end OnePiece

end World

/-- The pieces that are spared carry what they carried, or are gone, and the queue has only got work
at its end. -/
structure Retains (spared : Piece → Prop) (w w' : World β) : Prop where
  carried : ∀ k, spared k → w'.carried? k = w.carried? k ∨ w'.carried? k = none
  queue : w.queue <+: w'.queue

namespace Retains

variable {spared : Piece → Prop} {w w' w'' : World β}

/-- What has nothing to do with work retains what is carried. -/
theorem of_carrying_eq (h : w'.carrying = w.carrying) : Retains spared w w' where
  carried k _ := .inl (World.carried?_congr h k)
  queue := by
    have hQueue : w'.queue = w.queue := congrArg Carrying.queue h
    exact hQueue ▸ List.prefix_rfl

/-- What is carried is retained over any number of changes. -/
theorem trans (h : Retains spared w w') (h' : Retains spared w' w'') : Retains spared w w'' where
  carried k hk := by
    rcases h'.carried k hk with hSame | hNone
    · rw [hSame]
      exact h.carried k hk
    · exact .inr hNone
  queue := h.queue.trans h'.queue

theorem mono {fewer : Piece → Prop} (h : Retains spared w w') (hLe : ∀ k, fewer k → spared k) :
    Retains fewer w w' := ⟨fun k hk => h.carried k (hLe k hk), h.queue⟩

/-- One piece changes: it carries what it carried, or is gone, or is not spared. -/
theorem of_one {k : Piece} {x? : Option (Option Context)} (hQueue : w'.queue = w.queue)
    (h : ∀ other, w'.carried? other = if other = k then x? else w.carried? other)
    (hSelf : spared k → x? = w.carried? k ∨ x? = none) : Retains spared w w' where
  carried other hOther := by
    rw [h]
    by_cases hSame : other = k
    · rw [if_pos hSame, hSame]
      exact hSelf (hSame ▸ hOther)
    · exact .inl (if_neg hSame)
  queue := hQueue ▸ List.prefix_rfl

instance : IsPreorder (World β) (Retains spared) where
  refl _ := of_carrying_eq rfl
  trans _ _ _ := trans

end Retains

end SpanFlow.Session
