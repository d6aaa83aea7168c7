/-!
# Cutting text at a separator

`splitOn` gives all fields between the separators, so a text with `n` separators has `n + 1` fields
and none is lost. `cutAt` cuts once, at the first separator.

## Main results

* `splitOn_ne_nil`: there is always a field.
* `cutAt_eq_some`: a cut gives back the text, and its first part holds no separator.
-/

namespace SpanFlow.Text

/-- The fields of a text between the separators, empty ones included. -/
def splitOn (sep : Char) : List Char → List (List Char)
  | [] => [[]]
  | c :: rest =>
    if c = sep then [] :: splitOn sep rest
    else
      match splitOn sep rest with
      | [] => [[c]]
      | field :: more => (c :: field) :: more

/-- The parts of a text before and after its first separator. -/
def cutAt (sep : Char) : List Char → Option (List Char × List Char)
  | [] => none
  | c :: rest =>
    if c = sep then some ([], rest)
    else (cutAt sep rest).map fun parts => (c :: parts.1, parts.2)

/-- There is always a field, if only an empty one. -/
theorem splitOn_ne_nil (sep : Char) (cs : List Char) : splitOn sep cs ≠ [] := by
  cases cs with
  | nil => simp [splitOn]
  | cons c rest =>
    rw [splitOn]
    split
    · simp
    · split <;> simp

/-- A cut gives back the text, and its first part holds no separator. -/
theorem cutAt_eq_some {sep : Char} {cs before after : List Char}
    (h : cutAt sep cs = some (before, after)) : cs = before ++ sep :: after ∧ sep ∉ before := by
  induction cs generalizing before with
  | nil => simp [cutAt] at h
  | cons c rest ih =>
    by_cases hc : c = sep
    · simp only [cutAt, hc, ↓reduceIte, Option.some.injEq, Prod.mk.injEq] at h
      simp [← h.1, ← h.2, hc]
    · simp only [cutAt, hc, ↓reduceIte, Option.map_eq_some_iff, Prod.mk.injEq] at h
      obtain ⟨⟨b, a⟩, hCut, hb, ha⟩ := h
      have hBoth : rest = b ++ sep :: after ∧ sep ∉ b := ih (by rw [hCut, ← ha])
      subst hb
      exact ⟨by simp [hBoth.1], by simp [hBoth.2, Ne.symm hc]⟩

end SpanFlow.Text
