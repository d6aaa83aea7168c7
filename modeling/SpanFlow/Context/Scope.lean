import SpanFlow.Assoc
import SpanFlow.Context.Basic

/-!
# Scopes

Each flow of work has a slot that holds its current context. Attaching a context puts it into the
slot and hands out a guard; closing the guard puts back what was there before. A guard for a context
that was current already changes nothing, neither on attaching nor on closing.

Guards are meant to be closed in the reverse order of their making. One that finds another context
than its own still puts back the context from before its own attaching, and says so.

## Main results

* `current_attach`: what is attached is current.
* `current_close`: closing makes current what was so before the attaching.
* `current_replace_of_ne`: a write to one slot is seen in no other.
-/

namespace SpanFlow

/-- Where a current context lives: with a thread, with a request, or with a thread that a host has
bound to no request. -/
inductive Slot where
  | thread (id : Nat)
  | idle (thread : Nat)
  | request (id : Nat)
  deriving DecidableEq

/-- The current contexts; a slot never written to holds the root. -/
abbrev Slots := Assoc Slot Context

namespace Slots

/-- The current context of a slot. -/
def current (slots : Slots) (slot : Slot) : Context := (Assoc.get? slots slot).getD .root

/-- Makes a context the current one of a slot. -/
def replace (slots : Slots) (slot : Slot) (cx : Context) : Slots := Assoc.insert slots slot cx

@[simp] theorem current_replace (slots : Slots) (slot : Slot) (cx : Context) :
    (slots.replace slot cx).current slot = cx := by
  simp [current, replace, Assoc.get?_insert]

/-- A write to one slot is seen in no other. -/
theorem current_replace_of_ne {slot other : Slot} (slots : Slots) (cx : Context)
    (h : slot ≠ other) : (slots.replace slot cx).current other = slots.current other := by
  simp [current, replace, Assoc.get?_insert, h]

end Slots

/-- Why a store for current contexts is refused. -/
inductive StoreError where
  | inUse
  deriving DecidableEq

/-- The wording of an error. -/
def StoreError.message : StoreError → String
  | inUse => "context storage is already initialized; " ++
      "set_storage must be called once, before any context is used"

/-- What closing a scope needs: the context from before, if another one was attached over it, and
the context attached. -/
structure Guard where
  previous? : Option Context
  attached : Context

namespace Guard

/-- The guard of a context that is attached while another one is current. -/
def of (current cx : Context) : Guard :=
  if current.same cx then ⟨none, cx⟩ else ⟨some current, cx⟩

/-- The contexts that a guard keeps. -/
def contexts (g : Guard) : List Context := g.previous?.toList ++ [g.attached]

/-- Whether a guard, closed while `current` is current, was closed out of turn. -/
def outOfOrder (g : Guard) (current : Context) : Bool :=
  g.previous?.isSome && !current.same g.attached

/-- The description of a guard. -/
def describe (g : Guard) : String :=
  Text.record "ContextGuard"
    [("previous", Text.optional (g.previous?.map Context.describe)),
      ("attached", g.attached.describe), ("_marker", "PhantomData<*const ()>")]

end Guard

namespace Slots

/-- Attaches a context to a slot. -/
def attach (slots : Slots) (slot : Slot) (cx : Context) : Slots :=
  match (Guard.of (slots.current slot) cx).previous? with
  | none => slots
  | some _ => slots.replace slot cx

/-- Closes a guard while a slot is bound. -/
def close (slots : Slots) (slot : Slot) (g : Guard) : Slots :=
  match g.previous? with
  | none => slots
  | some previous => slots.replace slot previous

/-- What is attached is current. -/
theorem current_attach (slots : Slots) (slot : Slot) (cx : Context) :
    ((slots.attach slot cx).current slot).same cx = true := by
  unfold attach Guard.of
  by_cases h : (slots.current slot).same cx = true <;> simp [h]

/-- Closing makes current what was so before the attaching. -/
theorem current_close {slots : Slots} {slot : Slot} {g : Guard} {previous : Context}
    (h : g.previous? = some previous) : (slots.close slot g).current slot = previous := by
  simp [close, h]

theorem close_of_previous?_eq_none {slots : Slots} {slot : Slot} {g : Guard}
    (h : g.previous? = none) : slots.close slot g = slots := by
  simp [close, h]

end Slots

end SpanFlow
