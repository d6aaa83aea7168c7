/-!
# Decimal numerals

Natural numbers as plain digits of ASCII: no sign, no separator, no digit of another script. Where a
sign may stand before the digits it is a plus sign, and is taken off first.

## Main results

* `unsigned_cons`: what is no plus sign is not taken off.
-/

namespace SpanFlow.Text

/-- The value of a decimal digit. -/
def decimalValue? (c : Char) : Option Nat :=
  if '0' ≤ c ∧ c ≤ '9' then some (c.toNat - 48) else none

/-- The number that decimal digits spell; nothing if there are none, or if something else is among
them. -/
def decimal? (digits : List Char) : Option Nat :=
  if digits.isEmpty || !digits.all fun c => (decimalValue? c).isSome then none
  else some (digits.foldl (fun acc c => 10 * acc + (decimalValue? c).getD 0) 0)

/-- A text without the plus sign that may stand before it. -/
def unsigned : List Char → List Char
  | '+' :: rest => rest
  | cs => cs

/-- What is no plus sign is not taken off. -/
theorem unsigned_cons {c : Char} (h : c ≠ '+') (rest : List Char) :
    unsigned (c :: rest) = c :: rest := by
  simp [unsigned, h]

end SpanFlow.Text
