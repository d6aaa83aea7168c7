import Mathlib.Data.List.Basic
import SpanFlow.Proofs.Text.Bytes
import SpanFlow.Proofs.TraceState.Rereading

/-!
# The form of keys

A key is scanned from left to right with the place of the sign `@` as all that is remembered. What
the scan accepts can be told without it. Behind the sign there is nothing to ask but for a letter or
a digit at first, and for no other sign; before it, the rest of a key fits just if what stands
before its next sign does no harm and what stands behind that sign fits. `Fits` says this of the
rest of a key behind any number of characters, and one character more or less keeps it.

The scan counts characters and the size of a key is in bytes. These differ only where a character
takes more than one byte, and then no key is accepted, nor has it the form of one.

## Main results

* `acceptsFrom_none_iff`: which rest of a key is accepted before the sign was read.
* `validKey_iff_fits`: which keys are accepted, in terms of their characters.
* `validKey_iff_keyForm`: the same in terms of their bytes.
-/

namespace SpanFlow.TraceState

open Text

/-! ## What the scan accepts -/

/-- What the rest of a key must be behind `i` characters without the sign, in a key of `size`
bytes. -/
structure Fits (size i : Nat) (cs : List Char) : Prop where
  permitted : ∀ c ∈ cs, isKeyChar c = true
  count_sign_le : cs.count '@' ≤ 1
  system : ∀ tenant system, cs = tenant ++ '@' :: system →
    size ≤ i + tenant.length + 14 ∧ ∀ c ∈ system.head?, isAlnum c = true

theorem fits_nil (size i : Nat) : Fits size i [] := ⟨by simp, by simp, by simp⟩

/-- A character that is not the sign belongs to what stands before it. -/
theorem fits_cons {size i : Nat} {c : Char} {rest : List Char} (hSign : c ≠ '@') :
    Fits size i (c :: rest) ↔ isKeyChar c = true ∧ Fits size (i + 1) rest := by
  have hCount : (c :: rest).count '@' = rest.count '@' := List.count_cons_of_ne hSign
  constructor
  · intro h
    obtain ⟨hHead, hTail⟩ := List.forall_mem_cons.1 h.permitted
    refine ⟨hHead, hTail, hCount ▸ h.count_sign_le, fun tenant system hSplit => ?_⟩
    obtain ⟨hSize, hSystem⟩ := h.system (c :: tenant) system (by rw [hSplit]; rfl)
    rw [List.length_cons] at hSize
    exact ⟨by omega, hSystem⟩
  · rintro ⟨hHead, h⟩
    refine ⟨List.forall_mem_cons.2 ⟨hHead, h.permitted⟩, hCount ▸ h.count_sign_le,
      fun tenant system hSplit => ?_⟩
    cases tenant with
    | nil => exact absurd (List.cons.inj hSplit).1 hSign
    | cons first more =>
      obtain ⟨hSize, hSystem⟩ := h.system more system (List.cons.inj hSplit).2
      rw [List.length_cons]
      exact ⟨by omega, hSystem⟩

/-- What stands behind the sign is the system, and it has no sign. -/
theorem fits_cons_sign {size i : Nat} {rest : List Char} :
    Fits size i ('@' :: rest) ↔
      size ≤ i + 14 ∧ (∀ c ∈ rest, isKeyChar c = true ∧ c ≠ '@') ∧
        ∀ c ∈ rest.head?, isAlnum c = true := by
  constructor
  · intro h
    obtain ⟨hSize, hSystem⟩ := h.system [] rest rfl
    have hNone : '@' ∉ rest := by
      have hCount := h.count_sign_le
      rw [List.count_cons_self] at hCount
      exact List.count_eq_zero.1 (by omega)
    refine ⟨hSize, fun c hc => ⟨h.permitted c (List.mem_cons_of_mem _ hc), ?_⟩, hSystem⟩
    rintro rfl
    exact hNone hc
  · rintro ⟨hSize, hRest, hSystem⟩
    have hNone : '@' ∉ rest := fun hMem => (hRest '@' hMem).2 rfl
    refine ⟨List.forall_mem_cons.2 ⟨rfl, fun c hc => (hRest c hc).1⟩, ?_,
      fun tenant system hSplit => ?_⟩
    · rw [List.count_cons_self, List.count_eq_zero.2 hNone]
    · cases tenant with
      | nil =>
        obtain rfl : rest = system := (List.cons.inj hSplit).2
        exact ⟨hSize, hSystem⟩
      | cons first more =>
        refine absurd ?_ hNone
        rw [(List.cons.inj hSplit).2]
        exact List.mem_append_right _ List.mem_cons_self

/-- Behind the first character of the system only a second sign is refused. -/
theorem acceptsFrom_behind {size i start : Nat} (h : start + 1 < i) (cs : List Char) :
    acceptsFrom size i (some start) cs = true ↔ ∀ c ∈ cs, isKeyChar c = true ∧ c ≠ '@' := by
  induction cs generalizing i with
  | nil => simp [acceptsFrom]
  | cons c rest ih =>
    have hFirst : i ≠ 0 := by omega
    have hSecond : i ≠ start + 1 := by omega
    rw [acceptsFrom, List.forall_mem_cons]
    by_cases hSign : c = '@'
    · simp [acceptsAt, hSign, hFirst]
    · simp [acceptsAt, hSign, hFirst, hSecond, ih (Nat.lt_succ_of_lt h)]

theorem acceptsFrom_system (size start : Nat) (cs : List Char) :
    acceptsFrom size (start + 1) (some start) cs = true ↔
      (∀ c ∈ cs, isKeyChar c = true ∧ c ≠ '@') ∧ ∀ c ∈ cs.head?, isAlnum c = true := by
  cases cs with
  | nil => simp [acceptsFrom]
  | cons c rest =>
    rw [acceptsFrom, List.forall_mem_cons]
    by_cases hSign : c = '@'
    · simp [acceptsAt, hSign]
    · have hRest : acceptsFrom size (start + 1 + 1) (some start) rest = true ↔
          ∀ x ∈ rest, isKeyChar x = true ∧ x ≠ '@' :=
        acceptsFrom_behind (Nat.lt_succ_self (start + 1)) rest
      simp only [acceptsAt, hSign, Nat.add_eq_zero_iff, one_ne_zero, and_false, if_false, if_true,
        Bool.and_eq_true, hRest, List.head?_cons, Option.mem_some_iff, forall_eq']
      tauto

/-- **What is accepted before the sign.** -/
theorem acceptsFrom_none_iff {size i : Nat} (h : 0 < i) (cs : List Char) :
    acceptsFrom size i none cs = true ↔ Fits size i cs := by
  induction cs generalizing i with
  | nil => simpa [acceptsFrom] using fits_nil size i
  | cons c rest ih =>
    have hFirst : i ≠ 0 := by omega
    rw [acceptsFrom]
    by_cases hSign : c = '@'
    · rw [hSign, fits_cons_sign, ← acceptsFrom_system size i]
      simp [acceptsAt, hFirst, show isKeyChar '@' = true from rfl]
    · rw [fits_cons hSign, ← ih (Nat.succ_pos i)]
      simp [acceptsAt, hSign, hFirst]

/-- A key is accepted by its length, its first character and what the others may be where they
stand. -/
theorem validKey_iff_fits {key : String} :
    validKey key = true ↔
      0 < Utf8.byteLength key.toList ∧ Utf8.byteLength key.toList ≤ 256 ∧
        (∀ c ∈ key.toList.head?, isAlnum c = true) ∧
          Fits (Utf8.byteLength key.toList) 0 key.toList := by
  simp only [validKey, Bool.and_eq_true, decide_eq_true_eq, and_assoc]
  refine and_congr_right fun hPos => and_congr_right fun _ => ?_
  generalize Utf8.byteLength key.toList = size at hPos ⊢
  cases key.toList with
  | nil => simpa [acceptsFrom] using fits_nil size 0
  | cons c rest =>
    rw [acceptsFrom]
    by_cases hAlnum : isAlnum c = true
    · have hSign : c ≠ '@' := by
        rintro rfl
        revert hAlnum
        decide
      simp [acceptsAt, fits_cons hSign, hAlnum, hSign, acceptsFrom_none_iff]
    · simp [acceptsAt, hAlnum]

/-! ## Bytes -/

/-- The bytes of lower-case letters and digits. -/
def alnumBytes : List UInt8 := Utf8.encode "abcdefghijklmnopqrstuvwxyz0123456789".toList

/-- The bytes that may stand in a key. -/
def keyBytes : List UInt8 := Utf8.encode "abcdefghijklmnopqrstuvwxyz0123456789_-*/@".toList

/-- The sign that parts a tenant from its system. -/
def signByte : UInt8 := 0x40

/-- The form of a key, told from its bytes. -/
structure KeyForm (bytes : List UInt8) : Prop where
  length_pos : 0 < bytes.length
  length_le : bytes.length ≤ 256
  permitted : ∀ b ∈ bytes, b ∈ keyBytes
  first : ∀ b ∈ bytes.head?, b ∈ alnumBytes
  count_sign_le : bytes.count signByte ≤ 1
  system : ∀ tenant system, bytes = tenant ++ signByte :: system →
    system.length ≤ 13 ∧ ∀ b ∈ system.head?, b ∈ alnumBytes

/-- The one byte of an ASCII character. -/
def byteOf (c : Char) : UInt8 := UInt8.ofNat c.toNat

theorem byteOf_iff {c : Char} (h : c.toNat ≤ 127) :
    (byteOf c ∈ keyBytes ↔ isKeyChar c = true) ∧ (byteOf c ∈ alnumBytes ↔ isAlnum c = true) ∧
      (byteOf c = signByte ↔ c = '@') := by
  have hAll : ∀ n ≤ 127,
      (byteOf (Char.ofNat n) ∈ keyBytes ↔ isKeyChar (Char.ofNat n) = true) ∧
        (byteOf (Char.ofNat n) ∈ alnumBytes ↔ isAlnum (Char.ofNat n) = true) ∧
        (byteOf (Char.ofNat n) = signByte ↔ Char.ofNat n = '@') := by decide +kernel
  simpa using hAll c.toNat h

theorem toNat_le_of_mem_keyBytes : ∀ b ∈ keyBytes, b.toNat ≤ 127 := by decide +kernel

section Ascii

variable {cs : List Char} (h : ∀ c ∈ cs, c.toNat ≤ 127)
include h

theorem forall_head?_map_byteOf :
    (∀ b ∈ (cs.map byteOf).head?, b ∈ alnumBytes) ↔ ∀ c ∈ cs.head?, isAlnum c = true := by
  cases cs with
  | nil => simp
  | cons c rest => simp [(byteOf_iff (h c List.mem_cons_self)).2.1]

theorem count_map_byteOf : (cs.map byteOf).count signByte = cs.count '@' := by
  rw [List.count, List.countP_map, List.count]
  refine List.countP_congr fun c hc => ?_
  simp [(byteOf_iff (h c hc)).2.2]

theorem map_byteOf_eq_append_iff {before after : List UInt8} :
    cs.map byteOf = before ++ signByte :: after ↔
      ∃ tenant system, cs = tenant ++ '@' :: system ∧ tenant.map byteOf = before ∧
        system.map byteOf = after := by
  rw [List.map_eq_append_iff]
  constructor
  · rintro ⟨tenant, rest, hSplit, hTenant, hRest⟩
    obtain ⟨c, system, rfl, hSign, hSystem⟩ := List.map_eq_cons_iff.1 hRest
    have hChar : c ∈ cs := by simp [hSplit]
    obtain rfl := (byteOf_iff (h c hChar)).2.2.1 hSign
    exact ⟨tenant, system, hSplit, hTenant, hSystem⟩
  · rintro ⟨tenant, system, hSplit, hTenant, hSystem⟩
    exact ⟨tenant, '@' :: system, hSplit, hTenant, by rw [List.map_cons, hSystem]; rfl⟩

/-- Where each character has one byte the form of a key can be told from the characters. -/
theorem keyForm_map_byteOf :
    KeyForm (cs.map byteOf) ↔
      0 < cs.length ∧ cs.length ≤ 256 ∧ (∀ c ∈ cs.head?, isAlnum c = true) ∧
        Fits cs.length 0 cs := by
  have hPermitted : (∀ b ∈ cs.map byteOf, b ∈ keyBytes) ↔ ∀ c ∈ cs, isKeyChar c = true := by
    rw [List.forall_mem_map]
    exact forall₂_congr fun c hc => (byteOf_iff (h c hc)).1
  have hHead : ∀ {tenant system}, cs = tenant ++ '@' :: system →
      ((∀ b ∈ (system.map byteOf).head?, b ∈ alnumBytes) ↔
        ∀ c ∈ system.head?, isAlnum c = true) := by
    intro tenant system hSplit
    exact forall_head?_map_byteOf fun c hc => h c (by simp [hSplit, hc])
  have hLength : ∀ {tenant system}, cs = tenant ++ '@' :: system →
      (cs.length ≤ 0 + tenant.length + 14 ↔ system.length ≤ 13) := by
    intro tenant system hSplit
    rw [hSplit, List.length_append, List.length_cons]
    omega
  constructor
  · intro hForm
    refine ⟨by simpa using hForm.length_pos, by simpa using hForm.length_le,
      (forall_head?_map_byteOf h).1 hForm.first, hPermitted.1 hForm.permitted,
      count_map_byteOf h ▸ hForm.count_sign_le, fun tenant system hSplit => ?_⟩
    obtain ⟨hSize, hFirst⟩ := hForm.system (tenant.map byteOf) (system.map byteOf)
      ((map_byteOf_eq_append_iff h).2 ⟨tenant, system, hSplit, rfl, rfl⟩)
    rw [List.length_map] at hSize
    exact ⟨(hLength hSplit).2 hSize, (hHead hSplit).1 hFirst⟩
  · rintro ⟨hPos, hMax, hFirst, hFits⟩
    refine ⟨by simpa using hPos, by simpa using hMax, hPermitted.2 hFits.permitted,
      (forall_head?_map_byteOf h).2 hFirst, (count_map_byteOf h).symm ▸ hFits.count_sign_le,
      fun before after hBytes => ?_⟩
    obtain ⟨tenant, system, hSplit, -, rfl⟩ := (map_byteOf_eq_append_iff h).1 hBytes
    obtain ⟨hSize, hSystem⟩ := hFits.system tenant system hSplit
    rw [List.length_map]
    exact ⟨(hLength hSplit).1 hSize, (hHead hSplit).2 hSystem⟩

end Ascii

/-- **Which keys are accepted.** A text may stand as a key just if it has one to 256 bytes, all of
them lower-case letters, digits or one of `_`, `-`, `*`, `/` and `@`, the first of them a letter or
a digit, and no more than one sign `@`, behind which there are at most thirteen bytes, the first of
them, if there is one, a letter or a digit. -/
theorem validKey_iff_keyForm (key : String) :
    validKey key = true ↔ KeyForm (Utf8.encode key.toList) := by
  by_cases hAscii : ∀ c ∈ key.toList, c.toNat ≤ 127
  · have hBytes : Utf8.encode key.toList = key.toList.map byteOf := Utf8.encode_of_ascii hAscii
    have hSize : Utf8.byteLength key.toList = key.toList.length := by
      rw [← Utf8.length_encode, hBytes, List.length_map]
    rw [validKey_iff_fits, hBytes, keyForm_map_byteOf hAscii, hSize]
  · -- A character of more than one byte is refused by the scan, and so are its bytes by the form.
    constructor
    · intro hValid
      refine absurd (fun c hc => ?_) hAscii
      have hCode := toNat_of_isKeyChar (isKeyChar_of_validKey hValid c hc)
      omega
    · intro hForm
      refine absurd (fun c hc => Utf8.toNat_le_of_bytes fun b hb => ?_) hAscii
      exact toNat_le_of_mem_keyBytes b (hForm.permitted b (List.mem_flatMap.2 ⟨c, hc, hb⟩))

end SpanFlow.TraceState
