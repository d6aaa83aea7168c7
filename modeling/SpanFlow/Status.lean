import SpanFlow.Text.Order

/-!
# Status

What is known about the outcome of the work a span stands for. Statuses are totally ordered: nothing
known, then errors by their description, then success.

## Main results

* `order_eq_iff`: equal statuses, and no others, compare as equal.
-/

namespace SpanFlow

/-- The outcome of a span. -/
inductive Status where
  | unset
  | error (description : String)
  | ok
  deriving DecidableEq

namespace Status

/-- Compares two statuses. -/
def order : Status → Status → Ordering
  | unset, unset => .eq
  | unset, _ => .lt
  | error _, unset => .gt
  | error a, error b => Text.order a b
  | error _, ok => .lt
  | ok, ok => .eq
  | ok, _ => .gt

/-- The greater of two statuses: a new status replaces an old one only if it is greater. -/
def join (old new : Status) : Status := if order new old = .gt then new else old

/-- Equal statuses, and no others, compare as equal. -/
theorem order_eq_iff {a b : Status} : order a b = .eq ↔ a = b := by
  cases a <;> cases b <;> simp [order, Text.order_eq_iff]

end Status

end SpanFlow
