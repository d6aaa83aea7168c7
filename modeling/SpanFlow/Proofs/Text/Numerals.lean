import Mathlib.Algebra.GroupWithZero.Nat
import Mathlib.Data.List.Induction
import SpanFlow.Text.Hex

/-!
# What numerals spell

A hexadecimal digit lies in one of three ranges of characters, which fixes its value; all three lie
within ASCII. A numeral stands for less than its base to the power of its length, so a field of
bounded length spells a number of bounded size, however the number is read.

## Main results

* `Hex.digitValue?_lt`, `Hex.toNat_le_of_digitValue?`: the value of a digit, and its code.
* `Hex.value_lt`: a bound for a numeral from its length.
* `decimal?_eq_some_iff`: which texts are decimal numerals, and what they spell.
-/

namespace SpanFlow.Text

/-! ## Hexadecimal digits -/

theorem toNat_bounds {low high c : Char} (h : low ≤ c ∧ c ≤ high) :
    low.toNat ≤ c.toNat ∧ c.toNat ≤ high.toNat :=
  ⟨UInt32.le_iff_toNat_le.1 h.1, UInt32.le_iff_toNat_le.1 h.2⟩

namespace Hex

/-- A digit lies in one of three ranges, which fixes its value. -/
theorem digitValue?_cases {c : Char} {n : Nat} (h : digitValue? c = some n) :
    (48 ≤ c.toNat ∧ c.toNat ≤ 57 ∧ n = c.toNat - 48) ∨
      (97 ≤ c.toNat ∧ c.toNat ≤ 102 ∧ n = c.toNat - 87) ∨
      (65 ≤ c.toNat ∧ c.toNat ≤ 70 ∧ n = c.toNat - 55) := by
  unfold digitValue? at h
  split at h
  · rename_i hRange
    exact .inl ⟨(toNat_bounds hRange).1, (toNat_bounds hRange).2, (Option.some.inj h).symm⟩
  · split at h
    · rename_i hRange
      exact .inr <| .inl
        ⟨(toNat_bounds hRange).1, (toNat_bounds hRange).2, (Option.some.inj h).symm⟩
    · split at h
      · rename_i hRange
        exact .inr <| .inr
          ⟨(toNat_bounds hRange).1, (toNat_bounds hRange).2, (Option.some.inj h).symm⟩
      · cases h

/-- The value of a digit is below the base. -/
theorem digitValue?_lt {c : Char} {n : Nat} (h : digitValue? c = some n) : n < 16 := by
  rcases digitValue?_cases h with h | h | h <;> omega

/-- Digits are characters of ASCII. -/
theorem toNat_le_of_digitValue? {c : Char} {n : Nat} (h : digitValue? c = some n) :
    c.toNat ≤ 127 := by
  rcases digitValue?_cases h with h | h | h <;> omega

theorem utf8Size_of_isDigit {c : Char} (h : isDigit c = true) : c.utf8Size = 1 := by
  obtain ⟨n, hDigit⟩ := Option.isSome_iff_exists.1 h
  exact Char.utf8Size_eq_one_iff.2 (UInt32.le_iff_toNat_le.2 (toNat_le_of_digitValue? hDigit))

/-- A numeral stands for less than the power of sixteen that its length gives. -/
theorem value_lt (cs : List Char) : value cs < 16 ^ cs.length := by
  induction cs using List.reverseRecOn with
  | nil => decide
  | append_singleton rest c ih =>
    have hDigit : (digitValue? c).getD 0 < 16 := by
      cases h : digitValue? c with
      | none => exact Nat.zero_lt_succ 15
      | some n => exact digitValue?_lt h
    rw [value_append, List.length_append, List.length_singleton, Nat.pow_succ]
    omega

end Hex

/-! ## Decimal numerals -/

/-- The number that decimal digits spell, the first weighing most. -/
def decimalValue (digits : List Char) : Nat :=
  digits.foldl (fun acc c => 10 * acc + (decimalValue? c).getD 0) 0

/-- A decimal numeral is a text of one digit or more, and nothing else. -/
theorem decimal?_eq_some_iff {digits : List Char} {n : Nat} :
    decimal? digits = some n ↔
      digits ≠ [] ∧ (∀ c ∈ digits, '0' ≤ c ∧ c ≤ '9') ∧ decimalValue digits = n := by
  have hDigits : (digits.all fun c => (decimalValue? c).isSome) = true ↔
      ∀ c ∈ digits, '0' ≤ c ∧ c ≤ '9' := by
    rw [List.all_eq_true]
    refine forall₂_congr fun c _ => ?_
    unfold decimalValue?
    split <;> simp_all
  unfold decimal? decimalValue
  rw [← hDigits]
  cases digits with
  | nil => simp
  | cons c rest => cases (c :: rest).all fun c => (decimalValue? c).isSome <;> simp

end SpanFlow.Text
