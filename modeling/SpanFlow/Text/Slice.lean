import SpanFlow.Text.Utf8

/-!
# Cutting text at a count of characters

A text is stored as bytes and cut at a byte offset. `offset?` finds the offset at which a given
character begins, `before?` cuts there and refuses an offset inside a character; `truncated` puts
the two together.

## Main results

* `before?_offset?`: an offset that was found never falls inside a character.
* `truncated_eq_take`: cutting keeps the first characters and nothing else.
-/

namespace SpanFlow.Text

/-- The byte offset at which the character with index `n` begins. -/
def offset? : List Char → Nat → Option Nat
  | [], _ => none
  | _ :: _, 0 => some 0
  | c :: rest, n + 1 => (offset? rest n).map (c.utf8Size + ·)

/-- The text before a byte offset; nothing if the offset is not at the start of a character. -/
def before? : List Char → Nat → Option (List Char)
  | [], i => if i = 0 then some [] else none
  | c :: rest, i =>
    if i = 0 then some []
    else if c.utf8Size ≤ i then (before? rest (i - c.utf8Size)).map (c :: ·)
    else none

/-- A text cut down to at most `n` characters. -/
def truncated (cs : List Char) (n : Nat) : List Char :=
  match offset? cs n with
  | none => cs
  | some i => (before? cs i).getD cs

/-- An offset that was found never falls inside a character. -/
theorem before?_offset? {cs : List Char} {n i : Nat} (h : offset? cs n = some i) :
    before? cs i = some (cs.take n) := by
  induction cs generalizing n i with
  | nil => simp [offset?] at h
  | cons c rest ih =>
    cases n with
    | zero =>
      simp only [offset?, Option.some.injEq] at h
      simp [before?, ← h]
    | succ n =>
      obtain ⟨j, hj, hi⟩ := Option.map_eq_some_iff.1 (by simpa [offset?] using h)
      have hPos : 0 < c.utf8Size := Char.utf8Size_pos c
      have hNe : i ≠ 0 := by omega
      have hLe : c.utf8Size ≤ i := by omega
      have hSub : i - c.utf8Size = j := by omega
      simp [before?, hNe, hLe, hSub, ih hj]

theorem length_le_of_offset? {cs : List Char} {n : Nat} (h : offset? cs n = none) :
    cs.length ≤ n := by
  induction cs generalizing n with
  | nil => exact Nat.zero_le _
  | cons c rest ih =>
    cases n with
    | zero => simp [offset?] at h
    | succ n => simpa using ih (by simpa [offset?] using h)

/-- Cutting keeps the first characters and nothing else. -/
theorem truncated_eq_take (cs : List Char) (n : Nat) : truncated cs n = cs.take n := by
  unfold truncated
  split
  · rename_i hNone
    exact (List.take_of_length_le (length_le_of_offset? hNone)).symm
  · rename_i i hSome
    rw [before?_offset? hSome, Option.getD_some]

end SpanFlow.Text
