/-!
# The shortest decimal of a binary number

A 64-bit floating-point number stands for all the reals that round to it. The decimal chosen for it
is, of those reals, one with the fewest digits; among these the nearest to the number itself, and
of two equally near ones the larger. All of it is arithmetic on natural numbers: a number is
`m * 2 ^ q`, and the reals that round to it lie between quarters of its last place.
-/

namespace SpanFlow.Decimal

/-- A 64-bit floating-point number, taken apart. -/
inductive Binary where
  | nan
  | infinite (negative : Bool)
  | zero (negative : Bool)
  /-- The number `± mantissa * 2 ^ exponent`; `narrow` if the next smaller one is half as far away
  as the next larger one. -/
  | finite (negative : Bool) (mantissa : Nat) (exponent : Int) (narrow : Bool)

/-- Takes apart the bits of a number: sign, eleven bits of exponent, fifty-two of fraction. -/
def Binary.ofBits (bits : UInt64) : Binary :=
  let n : Nat := bits.toNat
  let negative := n / Nat.pow 2 63 % 2 == 1
  let exponent : Nat := n / Nat.pow 2 52 % Nat.pow 2 11
  let fraction : Nat := n % Nat.pow 2 52
  if exponent = 2047 then
    if fraction = 0 then .infinite negative else .nan
  else if exponent = 0 then
    if fraction = 0 then .zero negative else .finite negative fraction (-1074) false
  else
    .finite negative (Nat.pow 2 52 + fraction) ((exponent : Int) - 1075)
      (fraction = 0 && 1 < exponent)

/-- Two to a power, or ten to a power, as a fraction. -/
def power (base : Nat) (e : Int) : Nat × Nat := (Nat.pow base e.toNat, Nat.pow base (-e).toNat)

/--
A positive number beside a decimal grid, on one scale: the multiples of `step` are the grid, four
times the number is `4 * mantissa * part`.
-/
structure Grid where
  mantissa : Nat
  narrow : Bool
  part : Nat
  step : Nat

/-- The number `mantissa * 2 ^ exponent` beside the grid of multiples of `10 ^ unit`. -/
def Grid.of (mantissa : Nat) (exponent : Int) (narrow : Bool) (unit : Int) : Grid :=
  let two := power 2 (exponent - 2)
  let ten := power 10 unit
  ⟨mantissa, narrow, two.1 * ten.2, two.2 * ten.1⟩

/-- Whether a point of the grid rounds to the number; the ends do if the mantissa is even. -/
def Grid.inside (g : Grid) (c : Nat) : Bool :=
  let low := (4 * g.mantissa - if g.narrow then 1 else 2) * g.part
  let high := (4 * g.mantissa + 2) * g.part
  if g.mantissa % 2 = 0 then low ≤ c * g.step && c * g.step ≤ high
  else low < c * g.step && c * g.step < high

/-- The point of the grid just below the number. -/
def Grid.below (g : Grid) : Nat := 4 * g.mantissa * g.part / g.step

/-- The nearer of the number's two neighbours on the grid that round to it, the larger on a tie. -/
def Grid.nearest? (g : Grid) : Option Nat :=
  let low := g.below
  let lowDistance := 4 * g.mantissa * g.part - low * g.step
  let highDistance := (low + 1) * g.step - 4 * g.mantissa * g.part
  match g.inside low, g.inside (low + 1) with
  | true, true => some (if lowDistance < highDistance then low else low + 1)
  | true, false => some low
  | false, true => some (low + 1)
  | false, false => none

/-- The power of ten of the first digit of `mantissa * 2 ^ exponent`: no number of this format is
below `10 ^ (-330)`, so its product with `10 ^ 330` has that many digits more. -/
def leading (mantissa : Nat) (exponent : Int) : Int :=
  let two := power 2 exponent
  let scaled := mantissa * two.1 * Nat.pow 10 330 / two.2
  ((Nat.toDigits 10 scaled).length : Int) - 331

/-- The power of ten of the last of `digits` digits. -/
def lastPlace (mantissa : Nat) (exponent : Int) (digits : Nat) : Int :=
  leading mantissa exponent - digits + 1

/-- The grid on which a number has `digits` digits. -/
def Grid.ofDigits (mantissa : Nat) (exponent : Int) (narrow : Bool) (digits : Nat) : Grid :=
  Grid.of mantissa exponent narrow (lastPlace mantissa exponent digits)

/-- The best decimal of `digits` digits, if one rounds to the number. -/
def withDigits? (mantissa : Nat) (exponent : Int) (narrow : Bool) (digits : Nat) :
    Option (Nat × Int) :=
  (Grid.ofDigits mantissa exponent narrow digits).nearest?.map
    fun c => (c, lastPlace mantissa exponent digits)

/-- The shortest decimal `digits * 10 ^ place` of `mantissa * 2 ^ exponent`. -/
def shortest (mantissa : Nat) (exponent : Int) (narrow : Bool) : Nat × Int :=
  match (List.range 17).findSome? fun i => withDigits? mantissa exponent narrow (i + 1) with
  | some d => d
  | none =>
    ((Grid.ofDigits mantissa exponent narrow 17).below, lastPlace mantissa exponent 17)

end SpanFlow.Decimal
