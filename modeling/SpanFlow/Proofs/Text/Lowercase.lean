import Mathlib
import SpanFlow.Proofs.Text.Bytes
import SpanFlow.Text.Lowercase

/-!
# Lower case, twice and of respelled text

Lower case leaves nothing for another round. What a character becomes is its own image, and neither
the capital sigma nor the dotted capital I, which are the two characters that are treated apart, so
what stands around it does not matter any more.

Nor does it matter in which case the letters of ASCII are written. They become the same, and they
are cased, and not ignorable, in both cases, so that a capital sigma among them ends the same words.

## Main results

* `lowercase_lowercase`: lower case of lower case.
* `lowercase_eq_of_respelled`: lower case of texts that differ only in the case of ASCII letters.
-/

namespace SpanFlow.Text

/-! ## Lower case of lower case -/

/-- The number of a character that lower case leaves alone wherever it stands. -/
structure Lowered (n : Nat) : Prop where
  lowerCode_eq : lowerCode n = n
  ne_dotted : n ≠ 0x130

/-- The capital sigma has an image of its own. -/
theorem Lowered.ne_sigma {n : Nat} (h : Lowered n) : n ≠ 0x3A3 := by
  rintro rfl
  exact absurd h.lowerCode_eq (by decide +kernel)

/-- Whether a run of mappings may reach into the numbers from `low` to `high`. If only every second
of these is meant, a run that goes over every second number itself may run past them. -/
def reaches (low high : Nat) (everySecond : Bool) (run : Nat × Nat × Nat × Nat) : Bool :=
  Nat.ble run.1 high && Nat.ble low run.2.1 &&
    !(everySecond && (Nat.beq run.2.2.1 2 && Nat.beq ((low + run.1) % 2) 1))

/-- Whether a run of mappings may reach into the images of another. -/
def reachesImages (run : Nat × Nat × Nat × Nat) : Nat × Nat × Nat × Nat → Bool :=
  reaches run.2.2.2 (run.2.2.2 + (run.2.1 - run.1)) (Nat.beq run.2.2.1 2 || Nat.beq run.1 run.2.1)

/-- No run reaches into the images of any. This goes through all pairs of the table. -/
theorem not_reachesImages :
    (lowerRuns.all fun run => !lowerRuns.any (reachesImages run)) = true := by
  decide +kernel

/-- The images of a run are characters, and the dotted capital I is not among them. -/
theorem images_bounds : ∀ run ∈ lowerRuns,
    (run.2.2.2 + (run.2.1 - run.1) < 0xD800 ∨
      0xDFFF < run.2.2.2 ∧ run.2.2.2 + (run.2.1 - run.1) < 0x110000) ∧
    (run.2.2.2 + (run.2.1 - run.1) < 0x130 ∨ 0x130 < run.2.2.2) := by
  decide +kernel

/-- A number has its place in a run, and its image there, or stays what it is. -/
theorem lowerCode_place (n : Nat) :
    lowerCode n = n ∨ ∃ first last step image, (first, last, step, image) ∈ lowerRuns ∧
      first ≤ n ∧ n ≤ last ∧ (n - first) % step = 0 ∧ lowerCode n = n - first + image := by
  unfold lowerCode
  split
  · rename_i first last step image hFound
    have hMatch := List.find?_some hFound
    simp only [Bool.and_eq_true, decide_eq_true_eq, beq_iff_eq] at hMatch
    obtain ⟨⟨hFirst, hLast⟩, hStep⟩ := hMatch
    exact .inr ⟨first, last, step, image, List.mem_of_find?_eq_some hFound,
      hFirst, hLast, hStep, rfl⟩
  · exact .inl rfl

/-- An image has no image of its own. -/
theorem lowerCode_image {first last step image i : Nat}
    (hRun : (first, last, step, image) ∈ lowerRuns) (hPlace : i ≤ last - first)
    (hStep : i % step = 0) : lowerCode (i + image) = i + image := by
  rcases lowerCode_place (i + image) with
    hSame | ⟨first', last', step', image', hOther, hFirst, hLast, hOtherStep, -⟩
  · exact hSame
  · have hApart := List.all_eq_true.1 not_reachesImages _ hRun
    simp only [Bool.not_eq_true', List.any_eq_false] at hApart
    have hClear := hApart _ hOther
    simp only [reachesImages, reaches, Bool.and_eq_true, Bool.not_eq_true', Bool.and_eq_false_imp,
      Bool.or_eq_true, Nat.ble_eq, Nat.beq_eq] at hClear
    refine absurd ⟨⟨by omega, by omega⟩, fun hSecond hOtherSecond => ?_⟩ hClear
    rw [← Bool.not_eq_true, Nat.beq_eq]
    subst hOtherSecond
    rcases hSecond with rfl | rfl <;> omega

theorem lowerCode_cases (n : Nat) :
    lowerCode n = n ∨ (lowerCode n).isValidChar ∧ Lowered (lowerCode n) := by
  rcases lowerCode_place n with
    hSame | ⟨first, last, step, image, hRun, hFirst, hLast, hStep, hImage⟩
  · exact .inl hSame
  · obtain ⟨hValid, hDotted⟩ := images_bounds _ hRun
    have hPlace : n - first ≤ last - first := by omega
    rw [hImage]
    refine .inr ⟨?_, lowerCode_image hRun hPlace hStep, by dsimp only at hDotted; omega⟩
    dsimp only [Nat.isValidChar] at hValid ⊢
    omega

/-- Whatever stands around a character, what it becomes is left alone. -/
theorem lowered_lowerIn (before : List Char) (c : Char) (after : List Char) :
    ∀ d ∈ lowerIn before c after, Lowered d.toNat := by
  have hFinal : Lowered (Char.ofNat 0x3C2).toNat := ⟨by decide +kernel, by decide⟩
  have hSigma : Lowered (Char.ofNat 0x3C3).toNat := ⟨by decide +kernel, by decide⟩
  have hLetter : Lowered 'i'.toNat := ⟨by decide +kernel, by decide⟩
  have hDot : Lowered (Char.ofNat 0x307).toNat := ⟨by decide +kernel, by decide⟩
  unfold lowerIn
  split
  · split
    · exact List.forall_mem_singleton.2 hFinal
    · exact List.forall_mem_singleton.2 hSigma
  · split
    · exact List.forall_mem_cons.2 ⟨hLetter, List.forall_mem_singleton.2 hDot⟩
    · rename_i hDotted
      refine List.forall_mem_singleton.2 ?_
      rcases lowerCode_cases c.toNat with hSame | ⟨hValid, hLowered⟩
      · rw [hSame, Char.ofNat_toNat]
        refine ⟨hSame, fun h => hDotted ?_⟩
        rw [← h, Char.ofNat_toNat]
      · rwa [Char.toNat_ofNat, if_pos hValid]

theorem lowered_lowerFrom (before cs : List Char) :
    ∀ d ∈ lowerFrom before cs, Lowered d.toNat := by
  induction cs generalizing before with
  | nil => simp [lowerFrom]
  | cons c rest ih =>
    exact List.forall_mem_append.2 ⟨lowered_lowerIn before c rest, ih (c :: before)⟩

theorem lowerIn_of_lowered {c : Char} (h : Lowered c.toNat) (before after : List Char) :
    lowerIn before c after = [c] := by
  have hSigma : c ≠ capitalSigma := fun hEq => h.ne_sigma (hEq ▸ rfl)
  have hDotted : c ≠ Char.ofNat 0x130 := fun hEq => h.ne_dotted (hEq ▸ rfl)
  rw [lowerIn, if_neg hSigma, if_neg hDotted, h.lowerCode_eq, Char.ofNat_toNat]

theorem lowerFrom_of_lowered {cs : List Char} (h : ∀ c ∈ cs, Lowered c.toNat)
    (before : List Char) : lowerFrom before cs = cs := by
  induction cs generalizing before with
  | nil => rfl
  | cons c rest ih =>
    obtain ⟨hHead, hTail⟩ := List.forall_mem_cons.1 h
    rw [lowerFrom, lowerIn_of_lowered hHead, ih hTail, List.singleton_append]

/-- **Lower case of lower case is lower case.** -/
theorem lowercase_lowercase (s : String) : lowercase (lowercase s) = lowercase s := by
  have hLowered := lowerFrom_of_lowered (lowered_lowerFrom [] s.toList) []
  rw [lowercase, lowercase, String.toList_ofList, hLowered]

/-! ## Respelled text -/

/-- The capital letters of ASCII. -/
def asciiCapitals : List Char := "ABCDEFGHIJKLMNOPQRSTUVWXYZ".toList

theorem toLower_eq_self_or (c : Char) : c.toLower = c ∨ c ∈ asciiCapitals := by
  by_cases hUpper : c.isUpper = true
  · have hAll : ∀ n ≤ 127, (Char.ofNat n).isUpper = true → Char.ofNat n ∈ asciiCapitals := by
      decide +kernel
    have hSmall : c.toNat ≤ 127 := by
      simp only [Char.isUpper, decide_eq_true_eq] at hUpper
      exact Nat.le_trans (UInt32.le_iff_toNat_le.1 hUpper.2) (by decide)
    exact .inr (of_ascii (p := fun d => d.isUpper = true → d ∈ asciiCapitals) hAll hSmall hUpper)
  · exact .inl (Char.toLower_eq_of_not_isUpper hUpper)

/-- The case of an ASCII letter does not count for what stands around it. -/
theorem isCaseIgnorable_toLower (c : Char) : isCaseIgnorable c.toLower = isCaseIgnorable c := by
  have hCapitals :
      (asciiCapitals.all fun d => isCaseIgnorable d.toLower == isCaseIgnorable d) = true := by
    decide +kernel
  rcases toLower_eq_self_or c with h | h
  · rw [h]
  · exact eq_of_beq (List.all_eq_true.1 hCapitals c h)

theorem isCased_toLower (c : Char) : isCased c.toLower = isCased c := by
  have hCapitals : (asciiCapitals.all fun d => isCased d.toLower == isCased d) = true := by
    decide +kernel
  rcases toLower_eq_self_or c with h | h
  · rw [h]
  · exact eq_of_beq (List.all_eq_true.1 hCapitals c h)

/-- A capital letter of ASCII becomes its small letter wherever it stands. -/
theorem lowerIn_of_capital {c : Char} (h : c ∈ asciiCapitals) (before after : List Char) :
    lowerIn before c after = [c.toLower] ∧ Lowered c.toLower.toNat := by
  have hCapitals : (asciiCapitals.all fun d => d != capitalSigma && d != Char.ofNat 0x130 &&
      Char.ofNat (lowerCode d.toNat) == d.toLower && lowerCode d.toLower.toNat == d.toLower.toNat &&
      d.toLower.toNat != 0x130) = true := by
    decide +kernel
  have hLetter := List.all_eq_true.1 hCapitals c h
  simp only [Bool.and_eq_true, bne_iff_ne, beq_iff_eq] at hLetter
  obtain ⟨⟨⟨⟨hSigma, hDotted⟩, hLower⟩, hImage⟩, hImageDotted⟩ := hLetter
  rw [lowerIn, if_neg hSigma, if_neg hDotted, hLower]
  exact ⟨rfl, hImage, hImageDotted⟩

theorem meetsCased_map_toLower (cs : List Char) :
    meetsCased (cs.map Char.toLower) = meetsCased cs := by
  have hIgnorable : isCaseIgnorable ∘ Char.toLower = isCaseIgnorable :=
    funext isCaseIgnorable_toLower
  unfold meetsCased
  rw [List.dropWhile_map, hIgnorable]
  cases cs.dropWhile isCaseIgnorable with
  | nil => rfl
  | cons c rest => exact isCased_toLower c

theorem lowerIn_map_toLower (before : List Char) (c : Char) (after : List Char) :
    lowerIn (before.map Char.toLower) c.toLower (after.map Char.toLower) =
      lowerIn before c after := by
  rcases toLower_eq_self_or c with h | h
  · rw [h, lowerIn, lowerIn, meetsCased_map_toLower, meetsCased_map_toLower]
  · obtain ⟨hCapital, hLowered⟩ := lowerIn_of_capital h before after
    rw [hCapital, lowerIn_of_lowered hLowered]

theorem lowerFrom_map_toLower (before cs : List Char) :
    lowerFrom (before.map Char.toLower) (cs.map Char.toLower) = lowerFrom before cs := by
  induction cs generalizing before with
  | nil => rfl
  | cons c rest ih =>
    rw [List.map_cons, lowerFrom, lowerFrom, lowerIn_map_toLower, ← List.map_cons, ih]

/-- Two texts that differ at most in the case of ASCII letters. -/
def Respelled (s t : String) : Prop := s.toList.map Char.toLower = t.toList.map Char.toLower

/-- **The case of ASCII letters does not matter to lower case.** -/
theorem lowercase_eq_of_respelled {s t : String} (h : Respelled s t) :
    lowercase s = lowercase t := by
  rw [lowercase, lowercase, ← lowerFrom_map_toLower, h, List.map_nil,
    ← lowerFrom_map_toLower [] t.toList, List.map_nil]

end SpanFlow.Text
