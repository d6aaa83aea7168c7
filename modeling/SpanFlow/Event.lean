import SpanFlow.Attribute
import SpanFlow.SpanContext

/-!
# Events and links

What a span records besides its attributes: things that happened at a time, and references to other
spans. Each has attributes of its own and remembers how many it had to drop.
-/

namespace SpanFlow

/-- A point in time, in nanoseconds since 1970. A caller states it, or the clock shows it. -/
structure Timestamp where
  nanoseconds : Int
  deriving DecidableEq

/-- Something that happened during a span. -/
structure Event where
  name : String
  time : Timestamp
  attributes : List Attribute
  dropped : Nat

/-- An event without attributes, which happens at what the clock shows now. -/
def Event.named (name : String) (now : Timestamp) : Event := ⟨name, now, [], 0⟩

/-- A reference to another span. -/
structure Link where
  context : SpanContext
  attributes : List Attribute
  dropped : Nat

namespace Link

/-- The link to a span, without attributes. -/
def ofContext (context : SpanContext) : Link := ⟨context, [], 0⟩

/-- Whether two links are equal. -/
def same (a b : Link) : Bool :=
  a.context == b.context && Value.sameItems Attribute.same a.attributes b.attributes &&
    a.dropped == b.dropped

end Link

end SpanFlow
