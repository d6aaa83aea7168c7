import Mathlib.Data.List.DropRight
import SpanFlow.Text.Blank
import SpanFlow.Text.Fields

/-!
# Cutting and trimming text

Cutting a text at every separator undoes joining its fields, as long as no field holds a separator,
and a cut at the first separator parts what stands before it from what stands behind it. Trimming
takes blanks away at the ends and stops at a character that is not blank.

## Main results

* `splitOn_eq_iff`: the fields of a text.
* `intercalate_inj`: joined fields can be told apart, if none is empty.
* `cutAt_eq_some_iff`: the parts of a text before and after its first separator.
* `trimRight_append_cons`: blanks before a character that is not blank are kept.
* `trim_append_blanks`: blanks around a text do not count.
* `trimRight_eq_self_iff`: which texts trimming leaves alone.
-/

namespace SpanFlow.Text

/-! ## Cutting -/

theorem splitOn_eq (sep : Char) (cs : List Char) : splitOn sep cs = cs.splitOn sep := by
  induction cs with
  | nil => rfl
  | cons c rest ih =>
    rw [splitOn, List.splitOn_cons_eq_if_modifyHead, ih]
    by_cases hc : c = sep
    · simp [hc]
    · obtain ⟨field, more, hFields⟩ := List.exists_cons_of_ne_nil (List.splitOn_ne_nil sep rest)
      simp [hc, hFields]

/-- The fields of a text are those that, joined again, make the text, and hold no separator. -/
theorem splitOn_eq_iff {sep : Char} {cs : List Char} {fields : List (List Char)} :
    splitOn sep cs = fields ↔
      fields ≠ [] ∧ [sep].intercalate fields = cs ∧ ∀ field ∈ fields, sep ∉ field := by
  rw [splitOn_eq]
  constructor
  · rintro rfl
    refine ⟨List.splitOn_ne_nil sep cs, List.intercalate_splitOn sep, ?_⟩
    intro field hField
    induction cs generalizing field with
    | nil => simp_all
    | cons c rest ih =>
      rw [List.splitOn_cons_eq_if_modifyHead] at hField
      obtain ⟨first, more, hFields⟩ := List.exists_cons_of_ne_nil (List.splitOn_ne_nil sep rest)
      by_cases hc : c = sep
      · simp only [hc, beq_self_eq_true, if_true, List.mem_cons] at hField
        rcases hField with rfl | hField
        · exact List.not_mem_nil
        · exact ih field hField
      · simp only [beq_iff_eq, hc, if_false, hFields, List.modifyHead_cons, List.mem_cons]
          at hField ih
        rcases hField with rfl | hField
        · have hFirst := ih first (.inl rfl)
          simp [hFirst, Ne.symm hc]
        · exact ih field (.inr hField)
  · rintro ⟨hNe, rfl, hFree⟩
    exact List.splitOn_intercalate sep hFree hNe

section Joined

variable {sep : Char} {fields others : List (List Char)}

theorem intercalate_ne_nil (h : ∀ field ∈ fields, field ≠ []) (hNe : fields ≠ []) :
    [sep].intercalate fields ≠ [] := by
  obtain ⟨first, rest, rfl⟩ := List.exists_cons_of_ne_nil hNe
  have hFirst := h first List.mem_cons_self
  cases rest with
  | nil => rwa [List.intercalate_singleton]
  | cons second more =>
    rw [List.intercalate_cons_cons, List.append_assoc]
    exact List.append_ne_nil_of_left_ne_nil hFirst _

/-- No fields and one empty field make the same text, but fields that are not empty are known from
the text that they make. -/
theorem intercalate_inj (hFields : ∀ field ∈ fields, field ≠ [] ∧ sep ∉ field)
    (hOthers : ∀ field ∈ others, field ≠ [] ∧ sep ∉ field) :
    [sep].intercalate fields = [sep].intercalate others ↔ fields = others := by
  refine ⟨fun h => ?_, congrArg _⟩
  have hText : [sep].intercalate ([] : List (List Char)) = [] := rfl
  by_cases hNil : fields = []
  · subst hNil
    by_contra hNe
    exact intercalate_ne_nil (fun field hField => (hOthers field hField).1) (Ne.symm hNe)
      (h.symm.trans hText)
  · have hOthersNil : others ≠ [] := by
      rintro rfl
      exact intercalate_ne_nil (fun field hField => (hFields field hField).1) hNil (h.trans hText)
    have hSplit := splitOn_eq_iff.2 ⟨hNil, rfl, fun field hField => (hFields field hField).2⟩
    rw [h] at hSplit
    exact hSplit.symm.trans
      (splitOn_eq_iff.2 ⟨hOthersNil, rfl, fun field hField => (hOthers field hField).2⟩)

end Joined

/-- A text is cut at its first separator. -/
theorem cutAt_eq_some_iff {sep : Char} {cs before after : List Char} :
    cutAt sep cs = some (before, after) ↔ cs = before ++ sep :: after ∧ sep ∉ before := by
  refine ⟨cutAt_eq_some, ?_⟩
  rintro ⟨rfl, hFree⟩
  induction before with
  | nil => simp [cutAt]
  | cons c rest ih =>
    have hHead : c ≠ sep := fun h => hFree (h ▸ List.mem_cons_self)
    have hTail : sep ∉ rest := fun h => hFree (List.mem_cons_of_mem c h)
    simp [cutAt, hHead, ih hTail]

theorem cutAt_eq_none_iff {sep : Char} {cs : List Char} : cutAt sep cs = none ↔ sep ∉ cs := by
  induction cs with
  | nil => simp [cutAt]
  | cons c rest ih =>
    by_cases hc : c = sep
    · simp [cutAt, hc]
    · simp [cutAt, hc, ih, Ne.symm hc]

/-! ## Trimming -/

theorem trimRight_eq (cs : List Char) : trimRight cs = cs.rdropWhile isBlank := rfl

theorem trimRight_prefix (cs : List Char) : trimRight cs <+: cs := List.rdropWhile_prefix _ cs

/-- Trimming leaves those texts alone that do not end in a blank. -/
theorem trimRight_eq_self_iff {cs : List Char} :
    trimRight cs = cs ↔ ∀ c, cs.getLast? = some c → isBlank c = false := by
  rw [trimRight_eq, List.rdropWhile_eq_self_iff]
  refine ⟨fun h c hLast => ?_, fun h hNe => ?_⟩
  · have hNe : cs ≠ [] := by
      rintro rfl
      cases hLast
    rw [List.getLast?_eq_some_getLast hNe, Option.some.injEq] at hLast
    simpa [hLast] using h hNe
  · simpa using h _ (List.getLast?_eq_some_getLast hNe)

theorem isBlank_getLast?_trimRight {cs : List Char} {c : Char}
    (h : (trimRight cs).getLast? = some c) : isBlank c = false := by
  have hTwice : trimRight (trimRight cs) = trimRight cs := List.rdropWhile_idempotent _ cs
  exact trimRight_eq_self_iff.1 hTwice c h

/-- Trimming at the end does not get past a character that is not blank. -/
theorem trimRight_append_cons {c : Char} (h : isBlank c = false) (before after : List Char) :
    trimRight (before ++ c :: after) = before ++ c :: trimRight after := by
  have hCut : (before ++ c :: after).reverse = after.reverse ++ c :: before.reverse := by simp
  rw [trimRight, hCut, List.dropWhile_append, trimRight]
  cases hRest : after.reverse.dropWhile isBlank <;> simp [h]

/-- Blanks around a text do not count, whether it begins or ends in blanks itself. -/
theorem trim_append_blanks {before after : List Char} (hBefore : ∀ c ∈ before, isBlank c = true)
    (hAfter : ∀ c ∈ after, isBlank c = true) (cs : List Char) :
    trim (before ++ cs ++ after) = trim cs := by
  have hNothing : after.dropWhile isBlank = [] := List.dropWhile_eq_nil_iff.2 hAfter
  have hRight : ∀ kept : List Char, trimRight (kept ++ after) = trimRight kept := by
    intro kept
    have hReverse : ∀ c ∈ after.reverse, isBlank c = true :=
      fun c hc => hAfter c (List.mem_reverse.1 hc)
    rw [trimRight, List.reverse_append, List.dropWhile_append_of_pos hReverse, trimRight]
  rw [trim, List.append_assoc, List.dropWhile_append_of_pos hBefore, List.dropWhile_append,
    hNothing, trim]
  split
  · rename_i hEmpty
    rw [List.isEmpty_iff.1 hEmpty]
  · exact hRight _

theorem trim_of_blanks {cs : List Char} (h : ∀ c ∈ cs, isBlank c = true) : trim cs = [] := by
  have hEmpty : trim (cs ++ [] ++ []) = trim [] := trim_append_blanks h (by simp) []
  simpa [trim, trimRight] using hEmpty

theorem trim_subset (cs : List Char) : trim cs ⊆ cs := by
  have hPrefix : trim cs <+: cs.dropWhile isBlank := trimRight_prefix _
  intro c hc
  exact (List.dropWhile_suffix isBlank).subset (hPrefix.subset hc)

end SpanFlow.Text
