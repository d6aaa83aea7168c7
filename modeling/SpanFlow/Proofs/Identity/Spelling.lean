import SpanFlow.Proofs.Text.Bytes
import SpanFlow.Proofs.Text.Numerals
import SpanFlow.SpanContext

/-!
# Spelling identifiers

The text of an identifier and its bytes are both its number, in base 16 and in base 256, with a
fixed count of digits. So each byte is spelled by two digits of the text, and each text of that many
lower-case digits is that of one identifier.

A text is read in two stages. The first looks at its length and its digits; the second converts it,
takes digits in either case and a sign before them, and refuses a number that is too great. What has
passed the first stage is never refused by the second.

## Main results

* `number?_of_checkHex`: the conversion does not fail.
* `flatMap_bigEndian`: digits are the digits of the bytes, two for each.
* `Numbered.spelling`: what is known of texts and bytes of identifiers with numbers.
* `identifiers_spelled`: identifiers of traces and spans, and the contexts made from their texts.
-/

namespace SpanFlow

/-! ## Digits -/

namespace Text.Hex

/-- The digits that identifiers are written with. -/
def lowerDigits : List Char := "0123456789abcdef".toList

theorem isLowerDigit_iff {c : Char} : isLowerDigit c = true ↔ c ∈ lowerDigits := by
  have hDigits : lowerDigits.all isLowerDigit = true := by decide
  refine ⟨fun h => ?_, List.all_eq_true.1 hDigits c⟩
  have hAll : ∀ n ≤ 127, isLowerDigit (Char.ofNat n) = true → Char.ofNat n ∈ lowerDigits := by
    decide +kernel
  have hSmall : c.toNat ≤ 127 := by
    obtain ⟨d, hDigit⟩ := Option.isSome_iff_exists.1 (isDigit_of_isLowerDigit h)
    exact toNat_le_of_digitValue? hDigit
  exact of_ascii (p := fun d => isLowerDigit d = true → d ∈ lowerDigits) hAll hSmall h

/-- A lower-case digit is the one that its value is written with. -/
theorem digit_digitValue? {c : Char} (h : c ∈ lowerDigits) :
    (digitValue? c).map digit = some c := by
  have hDigits : (lowerDigits.all fun d => (digitValue? d).map digit == some d) = true := by decide
  exact eq_of_beq (List.all_eq_true.1 hDigits c h)

/-- Numerals of lower-case digits are known from their lengths and values. -/
theorem fixed_value {cs : List Char} (h : ∀ c ∈ cs, c ∈ lowerDigits) :
    fixed cs.length (value cs) = cs := by
  induction cs using List.reverseRecOn with
  | nil => rfl
  | append_singleton rest c ih =>
    obtain ⟨hRest, hLast⟩ := List.forall_mem_append.1 h
    obtain ⟨d, hValue, hDigit⟩ :=
      Option.map_eq_some_iff.1 (digit_digitValue? (hLast c List.mem_cons_self))
    have hSmall : d < 16 := digitValue?_lt hValue
    have hQuotient : (16 * value rest + d) / 16 = value rest := by omega
    have hRemainder : (16 * value rest + d) % 16 = d := by omega
    rw [List.length_append, List.length_singleton, value_append, hValue, Option.getD_some, fixed,
      hQuotient, hRemainder, ih hRest, hDigit]

theorem fixed_two {n : Nat} : fixed 2 n = [digit (n / 16 % 16), digit (n % 16)] := rfl

/-- Digits at the end of a numeral, two at a time. -/
theorem fixed_add_two (width n : Nat) :
    fixed (width + 2) n = fixed width (n / 256) ++ fixed 2 n := by
  have hQuotient : n / 16 / 16 = n / 256 := Nat.div_div_eq_div_mul n 16 16
  rw [fixed, fixed, hQuotient, List.append_assoc]
  rfl

end Text.Hex

open Text

/-! ## Reading a text -/

theorem checkHex_eq_ok_iff {width : Nat} {text : String} :
    checkHex width text = .ok () ↔
      text.toList.length = width ∧ ∀ c ∈ text.toList, c ∈ Hex.lowerDigits := by
  have hSize : (∀ c ∈ text.toList, c ∈ Hex.lowerDigits) →
      Utf8.byteLength text.toList = text.toList.length := fun h =>
    byteLength_eq_length fun c hc => utf8Size_of_isLowerDigit (Hex.isLowerDigit_iff.2 (h c hc))
  have hAll : text.toList.all Hex.isLowerDigit = true ↔ ∀ c ∈ text.toList, c ∈ Hex.lowerDigits := by
    simp only [List.all_eq_true, Hex.isLowerDigit_iff]
  constructor
  · intro h
    unfold checkHex at h
    split at h
    · cases h
    · rename_i hLength
      split at h
      · rename_i hDigits
        have hLower := hAll.1 hDigits
        exact ⟨(hSize hLower).symm.trans (not_not.1 hLength), hLower⟩
      · cases h
  · rintro ⟨hLength, hLower⟩
    have hBytes : Utf8.byteLength text.toList = width := (hSize hLower).trans hLength
    unfold checkHex
    rw [if_neg (not_not.2 hBytes), if_pos (hAll.2 hLower)]

/-- The length of a text is judged first, and in bytes. -/
theorem checkHex_eq_error_iff {width : Nat} {text : String} {e : IdError} :
    checkHex width text = .error e ↔
      (Utf8.byteLength text.toList ≠ width ∧
        e = .length width (Utf8.byteLength text.toList)) ∨
      (Utf8.byteLength text.toList = width ∧ (∃ c ∈ text.toList, c ∉ Hex.lowerDigits) ∧
        e = .notHex text) := by
  have hAll : ¬text.toList.all Hex.isLowerDigit = true ↔
      ∃ c ∈ text.toList, c ∉ Hex.lowerDigits := by
    simp only [List.all_eq_true, Hex.isLowerDigit_iff, not_forall, exists_prop]
  unfold checkHex
  rw [← hAll]
  split_ifs with hLength hDigits
  · simp [hLength, @eq_comm _ e]
  · simp [hLength, hDigits]
  · simp [not_not.1 hLength, hDigits, @eq_comm _ e]

/-- **What has passed the check is converted**: it has no sign and is not too great. -/
theorem number?_of_checkHex {width : Nat} {text : String} (hPos : 0 < width)
    (h : checkHex width text = .ok ()) :
    Hex.number? (4 * width) text.toList = some (Hex.value text.toList) := by
  obtain ⟨hLength, hLower⟩ := checkHex_eq_ok_iff.1 h
  have hNe : text.toList ≠ [] := List.ne_nil_of_length_pos (hLength ▸ hPos)
  have hDigits : ∀ c ∈ text.toList, Hex.isDigit c = true := fun c hc =>
    Hex.isDigit_of_isLowerDigit (Hex.isLowerDigit_iff.2 (hLower c hc))
  refine Hex.number?_of_digits hNe hDigits ?_
  calc Hex.value text.toList
      < 16 ^ text.toList.length := Hex.value_lt _
    _ = 2 ^ (4 * width) := by rw [hLength, Nat.pow_mul]

theorem hexNumber_eq_ok_iff {width n : Nat} {text : String} (hPos : 0 < width) :
    hexNumber width text = .ok n ↔
      checkHex width text = .ok () ∧ Hex.value text.toList = n := by
  unfold hexNumber
  cases hCheck : checkHex width text with
  | error e => simp
  | ok _ => simp [number?_of_checkHex hPos hCheck]

theorem hexNumber_eq_error_iff {width : Nat} {text : String} {e : IdError} (hPos : 0 < width) :
    hexNumber width text = .error e ↔ checkHex width text = .error e := by
  unfold hexNumber
  cases hCheck : checkHex width text with
  | error e => simp
  | ok _ => simp [number?_of_checkHex hPos hCheck]

/-! ## Bytes -/

@[simp] theorem length_bigEndian (count n : Nat) : (bigEndian count n).length = count := by
  induction count generalizing n with
  | zero => rfl
  | succ count ih => simp [bigEndian, ih]

theorem ofBigEndian_concat (bytes : List UInt8) (b : UInt8) :
    ofBigEndian (bytes ++ [b]) = 256 * ofBigEndian bytes + b.toNat := by
  simp [ofBigEndian]

theorem ofBigEndian_bigEndian {count n : Nat} (h : n < 256 ^ count) :
    ofBigEndian (bigEndian count n) = n := by
  induction count generalizing n with
  | zero =>
    obtain rfl : n = 0 := by simpa using h
    rfl
  | succ count ih =>
    have hQuotient : n / 256 < 256 ^ count :=
      (Nat.div_lt_iff_lt_mul (by decide)).2 (by rwa [← Nat.pow_succ])
    have hByte : (UInt8.ofNat (n % 256)).toNat = n % 256 := by simp
    rw [bigEndian, ofBigEndian_concat, ih hQuotient, hByte]
    omega

theorem bigEndian_ofBigEndian (bytes : List UInt8) :
    bigEndian bytes.length (ofBigEndian bytes) = bytes := by
  induction bytes using List.reverseRecOn with
  | nil => rfl
  | append_singleton rest b ih =>
    have hByte := b.toNat_lt
    have hQuotient : (256 * ofBigEndian rest + b.toNat) / 256 = ofBigEndian rest := by omega
    have hRemainder : (256 * ofBigEndian rest + b.toNat) % 256 = b.toNat := by omega
    rw [List.length_append, List.length_singleton, ofBigEndian_concat, bigEndian, hQuotient,
      hRemainder, ih, UInt8.ofNat_toNat]

theorem ofBigEndian_lt (bytes : List UInt8) : ofBigEndian bytes < 256 ^ bytes.length := by
  induction bytes using List.reverseRecOn with
  | nil => simp [ofBigEndian]
  | append_singleton rest b ih =>
    have hByte := b.toNat_lt
    rw [List.length_append, List.length_singleton, ofBigEndian_concat, Nat.pow_succ]
    omega

/-- The digits of a number are the digits of its bytes, two for each. -/
theorem flatMap_bigEndian (count n : Nat) :
    (bigEndian count n).flatMap (fun b => Hex.fixed 2 b.toNat) = Hex.fixed (2 * count) n := by
  induction count generalizing n with
  | zero => rfl
  | succ count ih =>
    have hByte : (UInt8.ofNat (n % 256)).toNat = n % 256 := by simp
    have hHigh : n % 256 / 16 % 16 = n / 16 % 16 := by omega
    have hLow : n % 256 % 16 = n % 16 := by omega
    have hLast : Hex.fixed 2 (n % 256) = Hex.fixed 2 n := by
      rw [Hex.fixed_two, Hex.fixed_two, hHigh, hLow]
    rw [bigEndian, List.flatMap_append, ih, List.flatMap_singleton, hByte, hLast,
      Nat.mul_succ, Hex.fixed_add_two (2 * count)]

/-- Where each item stands for two others, these stand at twice its place and behind it. -/
theorem getElem?_flatMap_pair {α β : Type} (first second : α → β) (items : List α) (i : Nat) :
    (items.flatMap fun x => [first x, second x])[2 * i]? = items[i]?.map first ∧
      (items.flatMap fun x => [first x, second x])[2 * i + 1]? = items[i]?.map second := by
  induction items generalizing i with
  | nil => simp
  | cons x rest ih =>
    cases i with
    | zero => simp
    | succ i =>
      obtain ⟨hFirst, hSecond⟩ := ih i
      simp [Nat.mul_succ, hFirst, hSecond]

/-! ## Identifiers -/

/-- These two digits spell a byte. -/
def SpellsByte (high low : Char) (b : UInt8) : Prop :=
  Hex.digitValue? high = some (b.toNat / 16) ∧ Hex.digitValue? low = some (b.toNat % 16)

/-- What makes texts of `2 * count` digits and rows of `count` bytes two spellings of the same
identifiers. -/
structure Spelling {Id : Type} (count : Nat) (text : Id → String)
    (ofHex : String → Except IdError Id) (toBytes : Id → List UInt8)
    (ofBytes : List UInt8 → Id) : Prop where
  ofHex_text : ∀ id, ofHex (text id) = .ok id
  text_of_ofHex : ∀ s id, ofHex s = .ok id → text id = s
  length_toBytes : ∀ id, (toBytes id).length = count
  ofBytes_toBytes : ∀ id, ofBytes (toBytes id) = id
  toBytes_ofBytes : ∀ bytes, bytes.length = count → toBytes (ofBytes bytes) = bytes
  byte_spelled : ∀ id i b, (toBytes id)[i]? = some b →
    ∃ high low, (text id).toList[2 * i]? = some high ∧ (text id).toList[2 * i + 1]? = some low ∧
      SpellsByte high low b
  accepted : ∀ s, (∃ id, ofHex s = .ok id) ↔
    s.toList.length = 2 * count ∧ ∀ c ∈ s.toList, c ∈ Hex.lowerDigits
  refused : ∀ s e, ofHex s = .error e ↔
    (Utf8.byteLength s.toList ≠ 2 * count ∧
      e = .length (2 * count) (Utf8.byteLength s.toList)) ∨
    (Utf8.byteLength s.toList = 2 * count ∧ (∃ c ∈ s.toList, c ∉ Hex.lowerDigits) ∧
      e = .notHex s)
  converted : ∀ s, checkHex (2 * count) s = .ok () →
    ∃ n, Hex.number? (8 * count) s.toList = some n

/-- Identifiers that are told by numbers of `count` bytes. -/
structure Numbered {Id : Type} (count : Nat) (toNat : Id → Nat) (ofNat : Nat → Id) : Prop where
  pos : 0 < count
  toNat_lt : ∀ id, toNat id < 256 ^ count
  ofNat_toNat : ∀ id, ofNat (toNat id) = id
  toNat_ofNat : ∀ n, n < 256 ^ count → toNat (ofNat n) = n

theorem pow_two_mul (count : Nat) : 16 ^ (2 * count) = 256 ^ count := Nat.pow_mul 16 2 count

/-- **Both spellings of identifiers with numbers.** -/
theorem Numbered.spelling {Id : Type} {count : Nat} {toNat : Id → Nat} {ofNat : Nat → Id}
    (h : Numbered count toNat ofNat) :
    Spelling count (fun id => String.ofList (Hex.fixed (2 * count) (toNat id)))
      (fun s => (hexNumber (2 * count) s).map ofNat) (fun id => bigEndian count (toNat id))
      (fun bytes => ofNat (ofBigEndian bytes)) := by
  have hPos : 0 < 2 * count := Nat.mul_pos (by decide) h.pos
  have hOk : ∀ {s id}, (hexNumber (2 * count) s).map ofNat = .ok id ↔
      checkHex (2 * count) s = .ok () ∧ ofNat (Hex.value s.toList) = id := by
    intro s id
    cases hNumber : hexNumber (2 * count) s with
    | error e =>
      have hCheck := (hexNumber_eq_error_iff hPos).1 hNumber
      simp [Except.map, hCheck]
    | ok n =>
      obtain ⟨hCheck, rfl⟩ := (hexNumber_eq_ok_iff hPos).1 hNumber
      simp [Except.map, hCheck]
  constructor
  case ofHex_text =>
    intro id
    have hLt : toNat id < Nat.pow 16 (2 * count) :=
      (h.toNat_lt id).trans_eq (pow_two_mul count).symm
    refine hOk.2 ⟨checkHex_fixed _ _, ?_⟩
    rw [String.toList_ofList, Hex.value_fixed, Nat.mod_eq_of_lt hLt, h.ofNat_toNat]
  case text_of_ofHex =>
    intro s id hRead
    obtain ⟨hCheck, rfl⟩ := hOk.1 hRead
    obtain ⟨hLength, hLower⟩ := checkHex_eq_ok_iff.1 hCheck
    have hLt : Hex.value s.toList < 256 ^ count := by
      have hValue := Hex.value_lt s.toList
      rwa [hLength, pow_two_mul] at hValue
    rw [h.toNat_ofNat _ hLt, ← hLength, Hex.fixed_value hLower, String.ofList_toList]
  case length_toBytes => exact fun id => length_bigEndian count (toNat id)
  case ofBytes_toBytes =>
    intro id
    rw [ofBigEndian_bigEndian (h.toNat_lt id), h.ofNat_toNat]
  case toBytes_ofBytes =>
    intro bytes hLength
    have hLt : ofBigEndian bytes < 256 ^ count := hLength ▸ ofBigEndian_lt bytes
    rw [h.toNat_ofNat _ hLt, ← hLength, bigEndian_ofBigEndian]
  case byte_spelled =>
    intro id i b hByte
    obtain ⟨hHigh, hLow⟩ := getElem?_flatMap_pair (fun b : UInt8 => Hex.digit (b.toNat / 16 % 16))
      (fun b : UInt8 => Hex.digit (b.toNat % 16)) (bigEndian count (toNat id)) i
    have hDigits := flatMap_bigEndian count (toNat id)
    simp only [Hex.fixed_two] at hDigits
    rw [hDigits, hByte, Option.map_some] at hHigh hLow
    have hLt := b.toNat_lt
    have hQuotient : b.toNat / 16 % 16 = b.toNat / 16 := by omega
    refine ⟨_, _, by rwa [String.toList_ofList], by rwa [String.toList_ofList], ?_, ?_⟩
    · rw [hQuotient, Hex.digitValue?_digit (by omega)]
    · rw [Hex.digitValue?_digit (by omega)]
  case accepted =>
    intro s
    simp only [hOk, exists_and_left, exists_eq', and_true, checkHex_eq_ok_iff]
  case refused =>
    intro s e
    rw [← checkHex_eq_error_iff, ← hexNumber_eq_error_iff hPos]
    cases hexNumber (2 * count) s <;> simp [Except.map]
  case converted =>
    intro s hCheck
    have hBits : 8 * count = 4 * (2 * count) := by omega
    exact ⟨_, hBits ▸ number?_of_checkHex hPos hCheck⟩

theorem TraceId.numbered : Numbered 16 TraceId.toNat TraceId.ofNat where
  pos := by decide
  toNat_lt id := id.val.isLt
  ofNat_toNat := TraceId.ofNat_toNat
  toNat_ofNat _ h := TraceId.toNat_ofNat h

theorem SpanId.numbered : Numbered 8 SpanId.toNat SpanId.ofNat where
  pos := by decide
  toNat_lt id := id.val.isLt
  ofNat_toNat := SpanId.ofNat_toNat
  toNat_ofNat _ h := SpanId.toNat_ofNat h

/-- **Identifiers, their texts and their bytes.** An identifier is read back from its text, and
bytes and identifiers are turned into each other; a byte is spelled by two digits of the text. A
text is read just if it has the fixed count of lower-case digits, and is then the text of what was
read; if it is not, its length in bytes is the reason, or that it has something else than such
digits, and never the conversion. A span context is made from two texts that both are read, and is
that of no span otherwise. -/
theorem identifiers_spelled :
    Spelling 16 TraceId.text TraceId.ofHex TraceId.toBytes TraceId.ofBytes ∧
    Spelling 8 SpanId.text SpanId.ofHex SpanId.toBytes SpanId.ofBytes ∧
    ∀ (traceText spanText : String) (flags : TraceFlags) (state : TraceState),
      (∀ t s, TraceId.ofHex traceText = .ok t → SpanId.ofHex spanText = .ok s →
        SpanContext.ofHex traceText spanText flags state = ⟨t, s, flags, state⟩) ∧
      (∀ e, TraceId.ofHex traceText = .error e ∨ SpanId.ofHex spanText = .error e →
        SpanContext.ofHex traceText spanText flags state = .none) := by
  refine ⟨TraceId.numbered.spelling, SpanId.numbered.spelling, ?_⟩
  intro traceText spanText flags state
  unfold SpanContext.ofHex
  constructor
  · intro t s hTrace hSpan
    rw [hTrace, hSpan]
  · rintro e (hTrace | hSpan)
    · rw [hTrace]
    · rw [hSpan]
      cases TraceId.ofHex traceText <;> rfl

end SpanFlow
