import Mathlib.Data.List.Lex
import Mathlib.Data.String.Basic
import Mathlib.Order.Monotone.Basic
import SpanFlow.Text.Order
import SpanFlow.Text.Utf8

/-!
# The bytes of a text

In UTF-8 a character is a leading byte that tells how many bytes follow it, and each of these has
six bits of its number. More bytes follow the greater numbers, and their leading bytes are greater.
So characters, and with them texts, are ordered as their bytes are, whatever stands behind them. A
character that takes one byte has its number as that byte, and all other bytes are above these.

## Main results

* `map_toNat_utf8EncodeChar`: the bytes of a character.
* `codes_strictMono`: texts are ordered as their bytes.
* `order_eq_gt_iff`: comparing texts is comparing their bytes.
* `encode_of_ascii`: texts of small characters have one byte for each of them.
* `decodeLossy_encode`: where bytes are those of a text, nothing is replaced.
-/

namespace SpanFlow.Text

namespace Utf8

/-- The bytes of a text as numbers. -/
def codes (cs : List Char) : List Nat := (encode cs).map UInt8.toNat

/-! ## The bytes of a character -/

/-- How many bytes follow the first one of the character with this number. -/
def followers (n : Nat) : Nat :=
  if n ≤ 0x7F then 0 else if n ≤ 0x7FF then 1 else if n ≤ 0xFFFF then 2 else 3

/-- What a first byte has beside the bits of a number, to tell how many bytes follow it. -/
def mark : Nat → Nat
  | 0 => 0
  | 1 => 0xC0
  | 2 => 0xE0
  | _ => 0xF0

/-- The first byte of the character with this number. -/
def leading (n : Nat) : Nat := n / 64 ^ followers n + mark (followers n)

/-- The bytes that follow a first one, with six bits each of a number. -/
def following : Nat → Nat → List Nat
  | 0, _ => []
  | k + 1, n => (n / 64 ^ k % 64 + 0x80) :: following k n

theorem toNat_lt (c : Char) : c.toNat < 0x110000 := by
  have hValid := c.valid
  simp only [UInt32.isValidChar, Nat.isValidChar] at hValid
  change c.val.toNat < _
  omega

/-- The bytes of a character: a leading one, and as many following it as that tells. -/
theorem map_toNat_utf8EncodeChar (c : Char) :
    (String.utf8EncodeChar c).map UInt8.toNat =
      leading c.toNat :: following (followers c.toNat) c.toNat := by
  have hRange := toNat_lt c
  have hValue : c.val.toNat = c.toNat := rfl
  simp only [String.utf8EncodeChar, hValue, leading, followers]
  split_ifs <;>
    simp only [List.map_cons, List.map_nil, UInt8.toNat_ofNat', following, mark, List.cons.injEq,
      and_true] <;>
    omega

/-! ## Order -/

/-- More bytes follow greater numbers. -/
theorem followers_mono : Monotone followers := by
  intro n m h
  simp only [followers]
  split_ifs <;> omega

/-- First bytes that announce more bytes are greater. -/
theorem leading_lt_of_followers_lt {c d : Char} (h : followers c.toNat < followers d.toNat) :
    leading c.toNat < leading d.toNat := by
  have hRange := toNat_lt c
  simp only [leading, followers] at h ⊢
  split_ifs at h ⊢ <;> simp only [mark] <;> omega

/-- The smaller of two numbers in base `b` has the smaller digit at some place, and the same ones
before it. -/
theorem lt_digits {b k n m : Nat} (h : n % b ^ (k + 1) < m % b ^ (k + 1)) :
    n / b ^ k % b < m / b ^ k % b ∨
      n / b ^ k % b = m / b ^ k % b ∧ n % b ^ k < m % b ^ k := by
  rw [Nat.mod_pow_succ, Nat.mod_pow_succ] at h
  rcases Nat.lt_trichotomy (n / b ^ k % b) (m / b ^ k % b) with hLess | hSame | hMore
  · exact .inl hLess
  · rw [hSame] at h
    exact .inr ⟨hSame, by omega⟩
  · exfalso
    have hPos : 0 < b ^ k := Nat.pos_of_ne_zero fun hZero => by simp [hZero] at hMore
    have hDigit : b ^ k * (m / b ^ k % b) + b ^ k ≤ b ^ k * (n / b ^ k % b) :=
      Nat.mul_le_mul_left (b ^ k) hMore
    have hRest := Nat.mod_lt m hPos
    have hMin := Nat.zero_le (n % b ^ k)
    omega

theorem following_lt {k n m : Nat} (h : n % 64 ^ k < m % 64 ^ k) (as bs : List Nat) :
    following k n ++ as < following k m ++ bs := by
  induction k with
  | zero => simp [Nat.mod_one] at h
  | succ k ih =>
    simp only [following, List.cons_append, List.cons_lt_cons_iff]
    rcases lt_digits h with hDigit | ⟨hDigit, hRest⟩
    · exact .inl (Nat.add_lt_add_right hDigit _)
    · exact .inr ⟨by rw [hDigit], ih hRest⟩

/-- Of two characters the smaller has the smaller bytes, whatever stands behind them. -/
theorem utf8EncodeChar_lt {c d : Char} (h : c < d) (as bs : List Nat) :
    (String.utf8EncodeChar c).map UInt8.toNat ++ as <
      (String.utf8EncodeChar d).map UInt8.toNat ++ bs := by
  have hNumber : c.toNat < d.toNat := h
  rw [map_toNat_utf8EncodeChar, map_toNat_utf8EncodeChar, List.cons_append, List.cons_append,
    List.cons_lt_cons_iff]
  rcases (followers_mono hNumber.le).lt_or_eq with hMore | hSame
  · exact .inl (leading_lt_of_followers_lt hMore)
  · have hQuotient := Nat.div_le_div_right (c := 64 ^ followers d.toNat) hNumber.le
    rw [leading, leading, hSame]
    rcases hQuotient.lt_or_eq with hLess | hEqual
    · exact .inl (Nat.add_lt_add_right hLess _)
    · refine .inr ⟨by rw [hEqual], following_lt ?_ as bs⟩
      have hc := Nat.div_add_mod c.toNat (64 ^ followers d.toNat)
      have hd := Nat.div_add_mod d.toNat (64 ^ followers d.toNat)
      rw [hEqual] at hc
      omega

theorem codes_cons (c : Char) (rest : List Char) :
    codes (c :: rest) = (String.utf8EncodeChar c).map UInt8.toNat ++ codes rest := by
  rw [codes, encode, List.flatMap_cons, List.map_append]
  rfl

/-- **Texts are ordered as their bytes.** -/
theorem codes_strictMono : StrictMono codes := by
  intro a b h
  induction h with
  | nil =>
    rw [codes_cons, map_toNat_utf8EncodeChar]
    exact List.nil_lt_cons _ _
  | cons _ ih =>
    rw [codes_cons, codes_cons]
    exact List.append_left_lt ih
  | rel hChar =>
    rw [codes_cons, codes_cons]
    exact utf8EncodeChar_lt hChar _ _

end Utf8

/-- Comparing texts is comparing their bytes. -/
theorem order_eq_gt_iff {a b : String} :
    order a b = .gt ↔ Utf8.codes b.toList < Utf8.codes a.toList := by
  rw [Utf8.codes_strictMono.lt_iff_lt, ← String.lt_iff_toList_lt, order]
  split_ifs with hLess hSame
  · simp [hLess.asymm]
  · simp [hSame]
  · simpa using lt_of_le_of_ne (not_lt.1 hLess) (Ne.symm hSame)

/-! ## Characters of one byte -/

/-- The one byte of an ASCII character. -/
theorem utf8EncodeChar_of_toNat_le {c : Char} (h : c.toNat ≤ 127) :
    String.utf8EncodeChar c = [UInt8.ofNat c.toNat] :=
  String.utf8EncodeChar_eq_singleton
    (Char.utf8Size_eq_one_iff.2 (UInt32.le_iff_toNat_le.2 h))

/-- What is checked number by number holds of ASCII characters. -/
theorem of_ascii {p : Char → Prop} (h : ∀ n ≤ 127, p (Char.ofNat n)) {c : Char}
    (hSmall : c.toNat ≤ 127) : p c := by
  have hChar := h c.toNat hSmall
  rwa [Char.ofNat_toNat] at hChar

namespace Utf8

theorem encode_cons (c : Char) (rest : List Char) :
    encode (c :: rest) = String.utf8EncodeChar c ++ encode rest := List.flatMap_cons

/-- A character whose bytes are small has one byte. -/
theorem toNat_le_of_bytes {c : Char} (h : ∀ b ∈ String.utf8EncodeChar c, b.toNat ≤ 127) :
    c.toNat ≤ 127 := by
  have hLeading : leading c.toNat ∈ (String.utf8EncodeChar c).map UInt8.toNat := by
    rw [map_toNat_utf8EncodeChar]
    exact List.mem_cons_self
  obtain ⟨b, hb, hByte⟩ := List.mem_map.1 hLeading
  have hSmall := h b hb
  rw [hByte, leading, followers] at hSmall
  by_contra hLarge
  split_ifs at hSmall <;> simp only [mark] at hSmall <;> omega

/-- A text whose bytes are small has one byte for each character, and that is its number. -/
theorem encode_of_ascii {cs : List Char} (h : ∀ c ∈ cs, c.toNat ≤ 127) :
    encode cs = cs.map fun c => UInt8.ofNat c.toNat := by
  induction cs with
  | nil => rfl
  | cons c rest ih =>
    obtain ⟨hHead, hTail⟩ := List.forall_mem_cons.1 h
    rw [encode_cons, utf8EncodeChar_of_toNat_le hHead, ih hTail]
    rfl

theorem length_encode (cs : List Char) : (encode cs).length = byteLength cs := by
  induction cs with
  | nil => rfl
  | cons c rest ih =>
    rw [encode_cons, List.length_append, String.length_utf8EncodeChar, ih]
    rfl

theorem byteLength_cons (c : Char) (rest : List Char) :
    byteLength (c :: rest) = c.utf8Size + byteLength rest := rfl

theorem byteLength_toList (s : String) : byteLength s.toList = s.utf8ByteSize := by
  have hBytes : (encode s.toList).toByteArray = s.toByteArray := String.utf8Encode_toList
  rw [← length_encode, ← String.size_toByteArray, ← hBytes, List.size_toByteArray]

/-! ## Decoding with replacements -/

theorem lead_two {b : UInt8} (h : 0xC2 ≤ b.toNat ∧ b.toNat < 0xE0) :
    lead b = .opens ⟨b.toNat - 0xC0, 1, 0x80, 0xBF⟩ := by
  unfold lead
  rw [if_neg (by omega), if_neg (by omega), if_pos h.2]

theorem lead_three {b : UInt8} (h : 0xE0 ≤ b.toNat ∧ b.toNat < 0xF0) :
    lead b = .opens ⟨b.toNat - 0xE0, 2, if b.toNat = 0xE0 then 0xA0 else 0x80,
      if b.toNat = 0xED then 0x9F else 0xBF⟩ := by
  unfold lead
  rw [if_neg (by omega), if_neg (by omega), if_neg (by omega), if_pos h.2]

theorem lead_four {b : UInt8} (h : 0xF0 ≤ b.toNat ∧ b.toNat < 0xF5) :
    lead b = .opens ⟨b.toNat - 0xF0, 3, if b.toNat = 0xF0 then 0x90 else 0x80,
      if b.toNat = 0xF4 then 0x8F else 0xBF⟩ := by
  unfold lead
  rw [if_neg (by omega), if_neg (by omega), if_neg (by omega), if_neg (by omega), if_pos h.2]

theorem followers_cases (n : Nat) :
    (followers n = 0 ∧ n ≤ 0x7F) ∨ (followers n = 1 ∧ 0x7F < n ∧ n ≤ 0x7FF) ∨
      (followers n = 2 ∧ 0x7FF < n ∧ n ≤ 0xFFFF) ∨ (followers n = 3 ∧ 0xFFFF < n) := by
  unfold followers
  split_ifs <;> omega

/-- The first byte of a character that takes more than one begins it, and the second one lies in the
range that the first one leaves: the number is not smaller than those with fewer bytes, is not a
surrogate's and is not above the last one. -/
theorem lead_of_followers {c : Char} {b : UInt8} {k : Nat} (hByte : b.toNat = leading c.toNat)
    (hMore : followers c.toNat = k + 1) :
    ∃ low high, lead b = .opens ⟨c.toNat / 64 ^ (k + 1), k + 1, low, high⟩ ∧
      low ≤ c.toNat / 64 ^ k % 64 + 0x80 ∧ c.toNat / 64 ^ k % 64 + 0x80 ≤ high := by
  have hValid : c.toNat < 0xD800 ∨ 0xDFFF < c.toNat ∧ c.toNat < 0x110000 := c.valid
  rw [leading, hMore] at hByte
  rcases followers_cases c.toNat with h | ⟨hCount, hRange⟩ | ⟨hCount, hRange⟩ | ⟨hCount, hRange⟩
  · omega
  · obtain rfl : k = 0 := by omega
    have hFirst : b.toNat = c.toNat / 64 ^ 1 + 0xC0 := hByte
    refine ⟨0x80, 0xBF, ?_, by omega, by omega⟩
    rw [lead_two (by omega), hFirst, Nat.add_sub_cancel]
  · obtain rfl : k = 1 := by omega
    have hFirst : b.toNat = c.toNat / 64 ^ 2 + 0xE0 := hByte
    have hLead := lead_three (by omega : 0xE0 ≤ b.toNat ∧ b.toNat < 0xF0)
    rw [hFirst, Nat.add_sub_cancel] at hLead
    exact ⟨_, _, hLead, by split <;> omega, by split <;> omega⟩
  · obtain rfl : k = 2 := by omega
    have hFirst : b.toNat = c.toNat / 64 ^ 3 + 0xF0 := hByte
    have hLead := lead_four (by omega : 0xF0 ≤ b.toNat ∧ b.toNat < 0xF5)
    rw [hFirst, Nat.add_sub_cancel] at hLead
    exact ⟨_, _, hLead, by split <;> omega, by split <;> omega⟩

/-- A character begun is completed by the bytes that follow it. -/
theorem decodeFrom_following {k n low high : Nat} {bs : List UInt8}
    (hBytes : bs.map UInt8.toNat = following (k + 1) n)
    (hLow : low ≤ n / 64 ^ k % 64 + 0x80) (hHigh : n / 64 ^ k % 64 + 0x80 ≤ high)
    (rest : List UInt8) :
    decodeFrom (some ⟨n / 64 ^ (k + 1), k + 1, low, high⟩) (bs ++ rest) =
      Char.ofNat n :: decodeFrom none rest := by
  induction k generalizing low high bs with
  | zero =>
    obtain ⟨b, more, rfl, hByte, hMore⟩ := List.map_eq_cons_iff.1 hBytes
    obtain rfl : more = [] := List.map_eq_nil_iff.1 hMore
    have hRange : low ≤ b.toNat ∧ b.toNat ≤ high := hByte ▸ ⟨hLow, hHigh⟩
    have hBits : 64 * (n / 64 ^ 1) + (b.toNat - 0x80) = n := by
      rw [hByte, Nat.add_sub_cancel, Nat.pow_zero, Nat.div_one, Nat.pow_one, Nat.div_add_mod]
    rw [List.singleton_append, decodeFrom, advance, if_pos hRange]
    simp only [Nat.zero_add, hBits, Nat.le_refl, if_true, List.singleton_append]
  | succ k ih =>
    obtain ⟨b, more, rfl, hByte, hMore⟩ := List.map_eq_cons_iff.1 hBytes
    have hRange : low ≤ b.toNat ∧ b.toNat ≤ high := hByte ▸ ⟨hLow, hHigh⟩
    have hBits : 64 * (n / 64 ^ (k + 2)) + (b.toNat - 0x80) = n / 64 ^ (k + 1) := by
      rw [hByte, Nat.add_sub_cancel, Nat.pow_succ 64 (k + 1), ← Nat.div_div_eq_div_mul,
        Nat.div_add_mod]
    have hDigit : n / 64 ^ k % 64 + 0x80 ≤ 0xBF := by omega
    have hRest := ih hMore (Nat.le_add_left _ _) hDigit
    rw [List.cons_append, decodeFrom, advance, if_pos hRange]
    simpa [hBits] using hRest

theorem decodeFrom_utf8EncodeChar (c : Char) (rest : List UInt8) :
    decodeFrom none (String.utf8EncodeChar c ++ rest) = c :: decodeFrom none rest := by
  obtain ⟨b, more, hSplit, hLead, hMore⟩ :=
    List.map_eq_cons_iff.1 (map_toNat_utf8EncodeChar c)
  rw [hSplit, List.cons_append, decodeFrom]
  cases hCount : followers c.toNat with
  | zero =>
    rw [hCount, following, List.map_eq_nil_iff] at hMore
    have hNumber : b.toNat = c.toNat := by
      rw [hLead, leading, hCount, Nat.pow_zero, Nat.div_one]
      rfl
    have hSmall : b.toNat < 0x80 := by
      have hRange := followers_cases c.toNat
      omega
    have hWhole : lead b = .whole c := by
      simp only [lead, if_pos hSmall]
      rw [hNumber, Char.ofNat_toNat]
    rw [hMore, enter, hWhole]
    rfl
  | succ k =>
    obtain ⟨low, high, hOpens, hLow, hHigh⟩ := lead_of_followers hLead hCount
    rw [hCount] at hMore
    rw [enter, hOpens]
    have hRest := decodeFrom_following hMore hLow hHigh rest
    rwa [Char.ofNat_toNat] at hRest

/-- **Where bytes are those of a text, nothing is replaced.** -/
theorem decodeLossy_encode (cs : List Char) : decodeLossy (encode cs) = cs := by
  unfold decodeLossy
  induction cs with
  | nil => rfl
  | cons c rest ih => rw [encode_cons, decodeFrom_utf8EncodeChar, ih]

end Utf8

end SpanFlow.Text
