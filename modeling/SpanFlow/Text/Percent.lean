/-!
# Percent escapes

One pass from left to right: a percent sign that two hexadecimal digits follow stands, with them,
for one byte. Every other byte stands for itself, a percent sign included. What a pass has written
is not looked at again, so an escaped percent sign begins no escape.
-/

namespace SpanFlow.Text.Percent

/-- The value of a byte that is a hexadecimal digit in either case. -/
def digitValue? (b : UInt8) : Option UInt8 :=
  if 48 ≤ b ∧ b ≤ 57 then some (b - 48)
  else if 97 ≤ b ∧ b ≤ 102 then some (b - 87)
  else if 65 ≤ b ∧ b ≤ 70 then some (b - 55)
  else none

/-- The byte that three bytes escape. -/
def escape? (sign high low : UInt8) : Option UInt8 :=
  if sign = 37 then
    match digitValue? high, digitValue? low with
    | some h, some l => some (16 * h + l)
    | _, _ => none
  else none

/-- Replaces the escapes by the bytes they stand for, in one pass from left to right. The program
leaves this to the `percent-encoding` crate; that the crate makes this pass is assumed here. -/
def decode : List UInt8 → List UInt8
  | [] => []
  | [a] => [a]
  | [a, b] => [a, b]
  | a :: b :: c :: rest =>
    match escape? a b c with
    | some byte => byte :: decode rest
    | none => a :: decode (b :: c :: rest)

end SpanFlow.Text.Percent
