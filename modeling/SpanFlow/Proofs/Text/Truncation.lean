import Mathlib.Data.List.TakeDrop
import SpanFlow.Attribute
import SpanFlow.Proofs.Text.Bytes

/-!
# Cutting texts at a length

A limit on the length of a text counts characters, but the text is cut at a byte offset: where the
first character begins that is too many. A character takes one to four bytes, so an offset may fall
inside one, and a slice that ends there is refused. It is not refused at the character boundaries of
the bytes, and an offset that was found by walking over characters is one of these.

## Main results

* `offset?_eq_some_iff`: the offset of a character counts the bytes of those before it.
* `before?_toList_eq_some_iff`, `isSome_before?_iff`: what a slice gives, and where it is refused.
* `truncated_in_characters`: what is kept of a text, and that cutting it cannot fail.
-/

namespace SpanFlow

namespace Text

/-! ## Offsets -/

/-- A character begins after the bytes of those before it. -/
theorem offset?_eq_some_iff {cs : List Char} {n i : Nat} :
    offset? cs n = some i ↔ n < cs.length ∧ Utf8.byteLength (cs.take n) = i := by
  induction cs generalizing n i with
  | nil => simp [offset?]
  | cons c rest ih =>
    cases n with
    | zero => simp [offset?, Utf8.byteLength]
    | succ n =>
      simp only [offset?, Option.map_eq_some_iff, ih, List.take_succ_cons, Utf8.byteLength_cons,
        List.length_cons, Nat.add_lt_add_iff_right]
      constructor
      · rintro ⟨j, ⟨hLt, rfl⟩, hSum⟩
        exact ⟨hLt, hSum⟩
      · rintro ⟨hLt, hSum⟩
        exact ⟨_, ⟨hLt, rfl⟩, hSum⟩

theorem isSome_offset?_iff {cs : List Char} {n : Nat} :
    (offset? cs n).isSome ↔ n < cs.length := by
  simp [Option.isSome_iff_exists, offset?_eq_some_iff]

/-! ## Slices -/

theorem before?_zero (cs : List Char) : before? cs 0 = some [] := by
  cases cs <;> rfl

/-- A slice behind the first character has this character and a slice of the rest. -/
theorem before?_cons (c : Char) (rest : List Char) (i : Nat) :
    before? (c :: rest) (c.utf8Size + i) = (before? rest i).map (c :: ·) := by
  have hPos : 0 < c.utf8Size := Char.utf8Size_pos c
  rw [before?, if_neg (by omega), if_pos (by omega), Nat.add_sub_cancel_left]

theorem before?_append (kept rest : List Char) :
    before? (kept ++ rest) (Utf8.byteLength kept) = some kept := by
  induction kept with
  | nil => exact before?_zero rest
  | cons c more ih => rw [List.cons_append, Utf8.byteLength_cons, before?_cons, ih, Option.map_some]

/-- A slice is a beginning of the text, with as many bytes as were asked for. -/
theorem prefix_of_before? {cs kept : List Char} {i : Nat} (h : before? cs i = some kept) :
    kept <+: cs ∧ Utf8.byteLength kept = i := by
  induction cs generalizing kept i with
  | nil =>
    obtain ⟨rfl, hKept⟩ := Option.ite_none_right_eq_some.1 h
    cases hKept
    exact ⟨List.prefix_rfl, rfl⟩
  | cons c rest ih =>
    unfold before? at h
    split at h
    case isTrue hZero =>
      cases h
      exact ⟨List.nil_prefix, hZero.symm⟩
    case isFalse =>
      obtain ⟨hLe, hRest⟩ := Option.ite_none_right_eq_some.1 h
      obtain ⟨more, hMore, rfl⟩ := Option.map_eq_some_iff.1 hRest
      obtain ⟨hPrefix, hSize⟩ := ih hMore
      refine ⟨List.cons_prefix_cons.2 ⟨rfl, hPrefix⟩, ?_⟩
      rw [Utf8.byteLength_cons, hSize, Nat.add_sub_cancel' hLe]

/-- A slice gives a text just if this begins the one that is sliced and has the bytes asked for. -/
theorem before?_toList_eq_some_iff {s kept : String} {i : Nat} :
    before? s.toList i = some kept.toList ↔ ∃ rest, s = kept ++ rest ∧ kept.utf8ByteSize = i := by
  constructor
  · intro h
    obtain ⟨⟨rest, hRest⟩, hSize⟩ := prefix_of_before? h
    refine ⟨String.ofList rest, ?_, by rw [← Utf8.byteLength_toList, hSize]⟩
    rw [← String.toList_inj, String.toList_append, String.toList_ofList, hRest]
  · rintro ⟨rest, rfl, rfl⟩
    rw [String.toList_append, ← Utf8.byteLength_toList]
    exact before?_append _ _

/-- **Slices at character boundaries.** A slice is refused at just those offsets that are no
character boundary of the bytes. -/
theorem isSome_before?_iff {s : String} {i : Nat} :
    (before? s.toList i).isSome ↔ (⟨i⟩ : String.Pos.Raw).IsValid s := by
  rw [Option.isSome_iff_exists, String.Pos.Raw.isValid_iff_exists_append]
  constructor
  · rintro ⟨chars, hChars⟩
    have hKept : chars = (String.ofList chars).toList := String.toList_ofList.symm
    rw [hKept] at hChars
    obtain ⟨rest, hText, rfl⟩ := before?_toList_eq_some_iff.1 hChars
    exact ⟨String.ofList chars, rest, hText, rfl⟩
  · rintro ⟨kept, rest, hText, hOffset⟩
    refine ⟨kept.toList, before?_toList_eq_some_iff.2 ⟨rest, hText, ?_⟩⟩
    exact (congrArg String.Pos.Raw.byteIdx hOffset).symm

/-! ## Cuts -/

/-- A byte offset at which a text is cut, and what is kept of it. -/
structure CutsAt (s : String) (i : Nat) (kept : String) : Prop where
  /-- There is something behind the offset. -/
  inside : i < s.utf8ByteSize
  /-- A character begins at it. -/
  boundary : (⟨i⟩ : String.Pos.Raw).IsValid s
  /-- The slice before it is not refused. -/
  slice : before? s.toList i = some kept.toList
  /-- The bytes before it are kept. -/
  bytes : kept.toByteArray = s.toByteArray.extract 0 i

/-- A text is cut between two texts, if there is something in the second one. -/
theorem cutsAt_append (kept : String) {rest : String} (h : rest ≠ "") :
    CutsAt (kept ++ rest) kept.utf8ByteSize kept := by
  have hSlice : before? (kept ++ rest).toList kept.utf8ByteSize = some kept.toList :=
    before?_toList_eq_some_iff.2 ⟨rest, rfl, rfl⟩
  constructor
  case inside =>
    have hRest : rest.utf8ByteSize ≠ 0 := mt String.utf8ByteSize_eq_zero_iff.1 h
    rw [String.utf8ByteSize_append]
    omega
  case boundary =>
    refine isSome_before?_iff.1 ?_
    rw [hSlice, Option.isSome_some]
  case slice => exact hSlice
  case bytes =>
    rw [String.toByteArray_append, ByteArray.extract_append_eq_left]
    exact String.size_toByteArray.symm

end Text

theorem toList_truncateText (n : Nat) (s : String) :
    (truncateText n s).toList = s.toList.take n := by
  rw [truncateText, String.toList_ofList, Text.truncated_eq_take]

/-- A text is cut where the first character begins that is too many. -/
theorem cutsAt_of_offset? {s : String} {n i : Nat} (h : Text.offset? s.toList n = some i) :
    Text.CutsAt s i (truncateText n s) := by
  obtain ⟨hLt, hSize⟩ := Text.offset?_eq_some_iff.1 h
  have hText : s = truncateText n s ++ String.ofList (s.toList.drop n) := by
    rw [← String.toList_inj, String.toList_append, toList_truncateText, String.toList_ofList,
      List.take_append_drop]
  have hMore : String.ofList (s.toList.drop n) ≠ "" := by
    rw [ne_eq, ← String.toList_inj, String.toList_ofList]
    exact fun hNil => hLt.not_ge (List.drop_eq_nil_iff.1 hNil)
  have hCuts := Text.cutsAt_append (truncateText n s) hMore
  rwa [← hText, ← Text.Utf8.byteLength_toList, toList_truncateText, hSize] at hCuts

theorem truncateText_eq_self_iff {n : Nat} {s : String} : truncateText n s = s ↔ s.length ≤ n := by
  rw [← String.toList_inj, toList_truncateText, List.take_eq_self_iff, String.length_toList]

/-- A limit that is applied again changes nothing. -/
theorem Value.limited_limited (limit : Option Nat) (v : Value) :
    (v.limited limit).limited limit = v.limited limit := by
  cases limit with
  | none => rfl
  | some n => rw [limited, limited, truncate_truncate, Nat.min_self]

/-- **Texts are cut in characters.** The first characters of a text are kept, as many as the limit
allows. A text that has more is cut at a byte offset inside it, which is a character boundary, so
that the slice is not refused; only a text that has no more stays as it is. Two limits keep what the
smaller one keeps, and a value to which a limit is applied again stays as it is. -/
theorem truncated_in_characters (s : String) (n m : Nat) :
    (truncateText n s).toList = s.toList.take (min n s.length) ∧
    ((Text.offset? s.toList n).isSome ↔ n < s.length) ∧
    (∀ i ∈ Text.offset? s.toList n, Text.CutsAt s i (truncateText n s)) ∧
    (truncateText n s = s ↔ s.length ≤ n) ∧
    truncateText m (truncateText n s) = truncateText (min n m) s ∧
    ∀ (limit : Option Nat) (v : Value), (v.limited limit).limited limit = v.limited limit := by
  refine ⟨?_, ?_, fun i => cutsAt_of_offset?, truncateText_eq_self_iff,
    truncateText_truncateText m n s, Value.limited_limited⟩
  · rw [toList_truncateText, ← String.length_toList, List.take_eq_take_min]
  · rw [Text.isSome_offset?_iff, String.length_toList]

-- One of the first four characters takes two bytes.
example : Text.offset? "héllo wörld".toList 4 = some 5 ∧
    truncateText 4 "héllo wörld" = "héll" := by decide

end SpanFlow
