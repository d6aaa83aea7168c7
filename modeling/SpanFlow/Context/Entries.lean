/-!
# The entries of a context

An immutable map from key numbers to values. Up to five bindings lie in slots that are part of the
map itself; a sixth key moves all of them into a list. Binding a key again replaces its value where
it stands.

## Main results

* `get?_single`: what a map with one binding gives.
-/

namespace SpanFlow.Context

/-- The greatest number of bindings that lie in slots. -/
def inlineCapacity : Nat := 5

/-- A key with its value. -/
structure Entry (β : Type) where
  key : Nat
  value : β

/-- The bindings of a context. -/
inductive Entries (β : Type) where
  | inline (used : Nat) (slots : Vector (Option (Entry β)) inlineCapacity)
  | spilled (entries : List (Entry β))

namespace Entries

/-- The map with one binding. -/
def single (key : Nat) (value : β) : Entries β :=
  inline 1 ((Vector.replicate inlineCapacity none).set 0 (some ⟨key, value⟩))

/-- The number of bindings. -/
def size : Entries β → Nat
  | inline used _ => used
  | spilled entries => entries.length

/-- The bindings in the order in which their keys were first bound. -/
def toList : Entries β → List (Entry β)
  | inline used slots => (slots.toList.take used).filterMap id
  | spilled entries => entries

/-- The value bound to a key. -/
def get? (m : Entries β) (key : Nat) : Option β :=
  (m.toList.find? fun e => e.key == key).map Entry.value

/-- Whether a slot holds a key. -/
def holds (key : Nat) (slot : Option (Entry β)) : Bool := slot.any fun e => e.key == key

/-- The map with a key bound to a value: in its place, in the next free slot, or at the end of the
list that all bindings move to once the slots are full. -/
def insert (m : Entries β) (key : Nat) (value : β) : Entries β :=
  match m with
  | inline used slots =>
    match (slots.toList.take used).findIdx? (holds key) with
    | some i => inline used (slots.setIfInBounds i (some ⟨key, value⟩))
    | none =>
      if used < inlineCapacity then
        inline (used + 1) (slots.setIfInBounds used (some ⟨key, value⟩))
      else spilled (slots.toList.filterMap id ++ [⟨key, value⟩])
  | spilled entries =>
    match entries.findIdx? fun e => e.key == key with
    | some i => spilled (entries.set i ⟨key, value⟩)
    | none => spilled (entries ++ [⟨key, value⟩])

theorem toList_single (key : Nat) (value : β) : (single key value).toList = [⟨key, value⟩] := rfl

/-- A map with one binding has a value for its key alone. -/
theorem get?_single (key other : Nat) (value : β) :
    (single key value).get? other = if key = other then some value else none := by
  by_cases h : key = other <;> simp [get?, toList_single, h]

end Entries

end SpanFlow.Context
