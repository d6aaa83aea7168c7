import SpanFlow.Decimal.Positional
import SpanFlow.Text.Slice

/-!
# Attributes

Named values on spans, events and links. A value is a truth value, an integer, a floating-point
number, a text, or a list of one of these kinds. Floating-point numbers are kept as their bits and
compared as numbers: a number that is none differs from itself, and the two zeros are equal.

## Main results

* `Value.truncate_truncate`: cutting twice cuts to the smaller length.
-/

namespace SpanFlow

/-- The value of an attribute. -/
inductive Value where
  | bool (b : Bool)
  | int (n : Int)
  | float (bits : UInt64)
  | text (s : String)
  | bools (bs : List Bool)
  | ints (ns : List Int)
  | floats (bits : List UInt64)
  | texts (ss : List String)
  deriving DecidableEq

/-- A text cut down to at most `n` characters. -/
def truncateText (n : Nat) (s : String) : String := String.ofList (Text.truncated s.toList n)

theorem truncateText_truncateText (m n : Nat) (s : String) :
    truncateText m (truncateText n s) = truncateText (min n m) s := by
  simp [truncateText, Text.truncated_eq_take, List.take_take, Nat.min_comm]

namespace Value

/-- Whether bits stand for no number: all exponent bits set, and some fraction bit. -/
def isNan (bits : UInt64) : Bool :=
  bits.toNat / Nat.pow 2 52 % Nat.pow 2 11 == 2047 && bits.toNat % Nat.pow 2 52 != 0

/-- Whether bits stand for zero, of either sign. -/
def isZero (bits : UInt64) : Bool := bits.toNat % Nat.pow 2 63 == 0

/-- Whether two floating-point numbers are equal as numbers. -/
def sameNumber (a b : UInt64) : Bool :=
  !isNan a && !isNan b && (a == b || (isZero a && isZero b))

/-- Whether two lists are equal item by item. -/
def sameItems (same : α → α → Bool) : List α → List α → Bool
  | [], [] => true
  | a :: as, b :: bs => same a b && sameItems same as bs
  | _, _ => false

/-- Whether two values are of one kind and equal. -/
def same : Value → Value → Bool
  | float a, float b => sameNumber a b
  | floats as, floats bs => sameItems sameNumber as bs
  | a, b => a == b

/-- The text of a truth value. -/
def boolText (b : Bool) : String := if b then "true" else "false"

/-- The text of an integer. -/
def intText (n : Int) : String :=
  if n < 0 then "-" ++ toString n.natAbs else toString n.natAbs

/-- The text of a floating-point number. -/
def floatText (bits : UInt64) : String := (Decimal.Binary.ofBits bits).text

/-- The texts of items, in brackets with commas between them. -/
def listText (items : List String) : String := "[" ++ ",".intercalate items ++ "]"

/-- The text of a value. Texts inside a list are put in quotes as they are. -/
def display : Value → String
  | bool b => boolText b
  | int n => intText n
  | float bits => floatText bits
  | text s => s
  | bools bs => listText (bs.map boolText)
  | ints ns => listText (ns.map intText)
  | floats bits => listText (bits.map floatText)
  | texts ss => listText (ss.map fun s => "\"" ++ s ++ "\"")

/-- A value with its texts cut down to `n` characters. -/
def truncate (n : Nat) : Value → Value
  | text s => text (truncateText n s)
  | texts ss => texts (ss.map (truncateText n))
  | v => v

/-- A value under a length limit that may be missing. -/
def limited (limit : Option Nat) (v : Value) : Value :=
  match limit with
  | none => v
  | some n => v.truncate n

/-- Cutting twice cuts to the smaller length. -/
theorem truncate_truncate (m n : Nat) (v : Value) :
    (v.truncate n).truncate m = v.truncate (min n m) := by
  cases v <;> simp [truncate, truncateText_truncateText]

end Value

/-- A value under a name. -/
structure Attribute where
  key : String
  value : Value
  deriving DecidableEq

namespace Attribute

/-- Whether two attributes have one name and equal values. -/
def same (a b : Attribute) : Bool := a.key == b.key && a.value.same b.value

/-- An attribute under a length limit that may be missing. -/
def limited (limit : Option Nat) (a : Attribute) : Attribute :=
  { a with value := a.value.limited limit }

end Attribute

end SpanFlow
