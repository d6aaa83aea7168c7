import SpanFlow.Decimal.Shortest

/-!
# Numbers in positional notation

How a floating-point attribute is written: its shortest decimal, always in positional notation,
without a point where no digit follows it, with a sign also before zero.
-/

namespace SpanFlow.Decimal

/-- Removes trailing zeros behind the point. -/
def dropZeros (digits : Nat) : Nat → Nat × Nat
  | 0 => (digits, 0)
  | places + 1 =>
    if digits % 10 = 0 then dropZeros (digits / 10) places else (digits, places + 1)

/-- The digits of `digits * 10 ^ unit`, with a point where one is needed. -/
def positional (digits : Nat) (unit : Int) : List Char :=
  if 0 ≤ unit then Nat.toDigits 10 digits ++ List.replicate unit.toNat '0'
  else
    let (kept, places) := dropZeros digits (-unit).toNat
    let text := Nat.toDigits 10 kept
    if places = 0 then text
    else
      let padded := List.replicate (places + 1 - text.length) '0' ++ text
      padded.take (padded.length - places) ++ '.' :: padded.drop (padded.length - places)

/-- The text of a floating-point number. -/
def Binary.text : Binary → String
  | .nan => "NaN"
  | .infinite negative => if negative then "-inf" else "inf"
  | .zero negative => if negative then "-0" else "0"
  | .finite negative mantissa exponent narrow =>
    let (digits, unit) := shortest mantissa exponent narrow
    String.ofList ((if negative then ['-'] else []) ++ positional digits unit)

end SpanFlow.Decimal
