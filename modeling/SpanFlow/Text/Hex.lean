import SpanFlow.Text.Numeral

/-!
# Hexadecimal numerals

Numbers in base sixteen, as a fixed count of digits and as the least count that suffices, and the
value of a numeral whose digits may be written in either case.

## Main results

* `digitValue?_digit`: the sixteen digits read back as their values.
* `value_fixed`: a numeral of `width` digits reads back as the number modulo `16 ^ width`.
* `length_fixed`, `isLowerDigit_of_mem_fixed`: its form.
* `number?_of_digits`: a numeral that is not too great stands for its value.
-/

namespace SpanFlow.Text.Hex

/-- The lower-case digit of a value below sixteen. -/
def digit (n : Nat) : Char :=
  if n < 10 then Char.ofNat (48 + n) else Char.ofNat (87 + n)

/-- The value of a digit in either case. -/
def digitValue? (c : Char) : Option Nat :=
  if '0' ≤ c ∧ c ≤ '9' then some (c.toNat - 48)
  else if 'a' ≤ c ∧ c ≤ 'f' then some (c.toNat - 87)
  else if 'A' ≤ c ∧ c ≤ 'F' then some (c.toNat - 55)
  else none

/-- Whether a character is a digit in either case. -/
def isDigit (c : Char) : Bool := (digitValue? c).isSome

/-- Whether a character is one of `0` to `9` and `a` to `f`. -/
def isLowerDigit (c : Char) : Bool := ('0' ≤ c && c ≤ '9') || ('a' ≤ c && c ≤ 'f')

/-- The value of a numeral, the first digit weighing most; anything else counts as zero. -/
def value (cs : List Char) : Nat :=
  cs.foldl (fun acc c => 16 * acc + (digitValue? c).getD 0) 0

/-- A number below `2 ^ bits` with one digit more behind it. -/
def withDigit? (bits acc : Nat) (c : Char) : Option Nat :=
  match digitValue? c with
  | none => none
  | some d => if 16 * acc + d < Nat.pow 2 bits then some (16 * acc + d) else none

/-- The number below `2 ^ bits` that a numeral in either case stands for, with or without a plus
sign before it; nothing if it has no digit, if something else is among them, or if the number is too
great. -/
def number? (bits : Nat) (cs : List Char) : Option Nat :=
  if (unsigned cs).isEmpty then none else (unsigned cs).foldlM (withDigit? bits) 0

/-- The last `width` digits of a number. -/
def fixed : Nat → Nat → List Char
  | 0, _ => []
  | width + 1, n => fixed width (n / 16) ++ [digit (n % 16)]

/-- A number without leading zeros; zero is one digit. -/
def minimal (n : Nat) : List Char :=
  match (fixed (n.log2 / 4 + 1) n).dropWhile (· == '0') with
  | [] => ['0']
  | digits => digits

/-- The sixteen digits read back as their values. -/
theorem digitValue?_digit {n : Nat} (h : n < 16) : digitValue? (digit n) = some n := by
  revert n; decide

theorem isLowerDigit_digit {n : Nat} (h : n < 16) : isLowerDigit (digit n) = true := by
  revert n; decide

@[simp] theorem length_fixed (width n : Nat) : (fixed width n).length = width := by
  induction width generalizing n with
  | zero => rfl
  | succ width ih => simp [fixed, ih]

/-- Numerals are written in lower case. -/
theorem isLowerDigit_of_mem_fixed {width n : Nat} {c : Char} (h : c ∈ fixed width n) :
    isLowerDigit c = true := by
  induction width generalizing n with
  | zero => simp [fixed] at h
  | succ width ih =>
    simp only [fixed, List.mem_append, List.mem_singleton] at h
    rcases h with h | h
    · exact ih h
    · exact h ▸ isLowerDigit_digit (Nat.mod_lt _ (by decide))

theorem value_append (cs : List Char) (c : Char) :
    value (cs ++ [c]) = 16 * value cs + (digitValue? c).getD 0 := by
  simp [value]

/-- A numeral of some width reads back as the number modulo that power of sixteen. -/
theorem value_fixed (width n : Nat) : value (fixed width n) = n % Nat.pow 16 width := by
  induction width generalizing n with
  | zero => simp [fixed, value, Nat.mod_one]
  | succ width ih =>
    rw [fixed, value_append, ih, digitValue?_digit (Nat.mod_lt _ (by decide)), Option.getD_some,
      show Nat.pow 16 (width + 1) = 16 * Nat.pow 16 width from Nat.mul_comm _ _, Nat.mod_mul]
    omega

theorem isDigit_of_isLowerDigit {c : Char} (h : isLowerDigit c = true) : isDigit c = true := by
  simp only [isLowerDigit, Bool.or_eq_true, Bool.and_eq_true, decide_eq_true_eq] at h
  unfold isDigit digitValue?
  split
  · rfl
  · rename_i hDecimal
    rw [if_pos (h.resolve_left hDecimal)]
    rfl

theorem le_foldl_digits (cs : List Char) (acc : Nat) :
    acc ≤ cs.foldl (fun acc c => 16 * acc + (digitValue? c).getD 0) acc := by
  induction cs generalizing acc with
  | nil => exact Nat.le_refl acc
  | cons c rest ih =>
    have hRest := ih (16 * acc + (digitValue? c).getD 0)
    rw [List.foldl_cons]
    omega

/-- No number on the way is greater than the last one, so none of them is too great. -/
theorem foldlM_withDigit? {bits acc : Nat} {cs : List Char} (hDigits : ∀ c ∈ cs, isDigit c = true)
    (h : cs.foldl (fun acc c => 16 * acc + (digitValue? c).getD 0) acc < Nat.pow 2 bits) :
    cs.foldlM (withDigit? bits) acc =
      some (cs.foldl (fun acc c => 16 * acc + (digitValue? c).getD 0) acc) := by
  induction cs generalizing acc with
  | nil => rfl
  | cons c rest ih =>
    obtain ⟨d, hDigit⟩ := Option.isSome_iff_exists.1 (hDigits c List.mem_cons_self)
    have hStep : (digitValue? c).getD 0 = d := by rw [hDigit, Option.getD_some]
    rw [List.foldl_cons, hStep] at h ⊢
    have hFits : 16 * acc + d < Nat.pow 2 bits := Nat.lt_of_le_of_lt (le_foldl_digits rest _) h
    have hHead : withDigit? bits acc c = some (16 * acc + d) := by
      simp only [withDigit?, hDigit, if_pos hFits]
    rw [List.foldlM_cons, hHead]
    exact ih (fun x hx => hDigits x (List.mem_cons_of_mem c hx)) h

/-- A numeral that is not too great stands for its value. -/
theorem number?_of_digits {bits : Nat} {cs : List Char} (hNe : cs ≠ [])
    (hDigits : ∀ c ∈ cs, isDigit c = true) (h : value cs < Nat.pow 2 bits) :
    number? bits cs = some (value cs) := by
  cases cs with
  | nil => exact absurd rfl hNe
  | cons c rest =>
    have hSign : c ≠ '+' := by
      rintro rfl
      exact absurd (hDigits '+' List.mem_cons_self) (by decide)
    have hFold : (c :: rest).foldlM (withDigit? bits) 0 = some (value (c :: rest)) :=
      foldlM_withDigit? hDigits h
    simpa [number?, unsigned_cons hSign] using hFold

end SpanFlow.Text.Hex
