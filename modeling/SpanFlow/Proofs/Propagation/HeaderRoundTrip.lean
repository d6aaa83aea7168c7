import SpanFlow.Proofs.Propagation.HeaderGrammar
import SpanFlow.Proofs.Text.Bytes

/-!
# Headers that are written and read

A valid context is written as a canonical header: 32 and 16 lower-case digits, the digit zero in the
place of the parent, and one digit for the sampled bit. Intermediaries may replace any of its
characters by percent escapes; `Escapes` relates a text to what it may have become. Whatever they
do, what is read is the context that was written, with no other flag than the sampled bit and no
trace state.

The argument is that an escaped header stands for the bytes of the canonical one, whose fields are
well-formed. Everything about reading is then known from the grammar of headers.

## Main results

* `Escapes.bytes_eq`: replacing escapes undoes escaping.
* `wellFormed_of_escapes`: an escaped canonical header is well-formed.
* `header_round_trip`: decoding undoes encoding, and encoding makes what was read canonical.
-/

namespace SpanFlow

/-! ## Escaping -/

namespace Text

/-- A text some characters of which are replaced by percent escapes, with digits in either case. -/
inductive Escapes : List Char → List Char → Prop
  | nil : Escapes [] []
  | keep (c : Char) {text escaped : List Char} (rest : Escapes text escaped) :
      Escapes (c :: text) (c :: escaped)
  | escape (c : Char) {high low : Char} {h l : Nat} {text escaped : List Char}
      (high_eq : Hex.digitValue? high = some h) (low_eq : Hex.digitValue? low = some l)
      (code_eq : 16 * h + l = c.toNat) (rest : Escapes text escaped) :
      Escapes (c :: text) ('%' :: high :: low :: escaped)

theorem Escapes.refl (text : List Char) : Escapes text text := by
  induction text with
  | nil => exact .nil
  | cons c rest ih => exact .keep c ih

theorem Percent.decode_cons_of_ne {b : UInt8} (h : b ≠ 37) (bytes : List UInt8) :
    Percent.decode (b :: bytes) = b :: Percent.decode bytes := by
  match bytes with
  | [] => rfl
  | [_] => rfl
  | b' :: b'' :: rest =>
    have hNone : Percent.escape? b b' b'' = none := if_neg h
    rw [Percent.decode, hNone]

/-- A digit has the same value as a byte. -/
theorem Percent.digitValue?_ofNat {c : Char} {n : Nat} (h : Hex.digitValue? c = some n) :
    Percent.digitValue? (UInt8.ofNat c.toNat) = some (UInt8.ofNat n) := by
  have hByte : (UInt8.ofNat c.toNat).toNat = c.toNat := by
    rw [UInt8.toNat_ofNat', Nat.mod_eq_of_lt]
    rcases Hex.digitValue?_cases h with h | h | h <;> omega
  unfold Percent.digitValue?
  simp only [UInt8.le_iff_toNat_le, hByte, UInt8.reduceToNat]
  rcases Hex.digitValue?_cases h with ⟨hLow, hHigh, rfl⟩ | ⟨hLow, hHigh, rfl⟩ | ⟨hLow, hHigh, rfl⟩
  · rw [if_pos ⟨hLow, hHigh⟩, UInt8.ofNat_sub hLow]
    rfl
  · rw [if_neg (by omega), if_pos ⟨hLow, hHigh⟩, UInt8.ofNat_sub (by omega)]
    rfl
  · rw [if_neg (by omega), if_neg (by omega), if_pos ⟨hLow, hHigh⟩, UInt8.ofNat_sub (by omega)]
    rfl

/-- An escape stands for its byte. -/
theorem Percent.decode_escape {a b c byte : UInt8} (h : Percent.escape? a b c = some byte)
    (bytes : List UInt8) :
    Percent.decode (a :: b :: c :: bytes) = byte :: Percent.decode bytes := by
  rw [Percent.decode, h]

/-- **Replacing undoes escaping.** An escaped text of ASCII characters without a percent sign has
the bytes of the text. -/
theorem Escapes.bytes_eq {text escaped : List Char} (h : Escapes text escaped)
    (hText : ∀ c ∈ text, c.toNat ≤ 127 ∧ c ≠ '%') :
    Percent.decode (Utf8.encode escaped) = Utf8.encode text := by
  induction h with
  | nil => rfl
  | keep c rest ih =>
    obtain ⟨hAscii, hSign⟩ := hText c List.mem_cons_self
    have hByte : UInt8.ofNat c.toNat ≠ 37 := by
      intro hEq
      have hCode := congrArg UInt8.toNat hEq
      rw [UInt8.toNat_ofNat', Nat.mod_eq_of_lt (by omega)] at hCode
      exact hSign (Char.toNat_inj.1 hCode)
    have hRest := ih fun x hx => hText x (List.mem_cons_of_mem _ hx)
    simp only [Utf8.encode, List.flatMap_cons, utf8EncodeChar_of_toNat_le hAscii,
      List.singleton_append] at hRest ⊢
    rw [Percent.decode_cons_of_ne hByte, hRest]
  | @escape c high low h l text escaped hHigh hLow hCode rest ih =>
    obtain ⟨hAscii, hSign⟩ := hText c List.mem_cons_self
    have hRest := ih fun x hx => hText x (List.mem_cons_of_mem _ hx)
    have hEscape : Percent.escape? 37 (UInt8.ofNat high.toNat) (UInt8.ofNat low.toNat) =
        some (UInt8.ofNat c.toNat) := by
      rw [Percent.escape?, if_pos rfl, Percent.digitValue?_ofNat hHigh,
        Percent.digitValue?_ofNat hLow, ← hCode]
      simp
    simp only [Utf8.encode, List.flatMap_cons, utf8EncodeChar_of_toNat_le hAscii,
      utf8EncodeChar_of_toNat_le (Hex.toNat_le_of_digitValue? hHigh),
      utf8EncodeChar_of_toNat_le (Hex.toNat_le_of_digitValue? hLow),
      List.singleton_append] at hRest ⊢
    rw [show String.utf8EncodeChar '%' = [37] from by decide, List.singleton_append,
      Percent.decode_escape hEscape, hRest]

end Text

/-- The sampled bit of flags is all there is of them or nothing. -/
theorem TraceFlags.inter_sampled (f : TraceFlags) :
    f.inter .sampled = if f.isSampled then .sampled else .none := by
  have hBit : ∀ b : BitVec 8, b &&& 1#8 = if b &&& 1#8 == 1#8 then 1#8 else 0#8 := by decide
  have hByte : f.bits &&& 1 = if f.bits &&& 1 == 1 then 1 else 0 := by
    apply UInt8.toBitVec_inj.1
    have h := hBit f.bits.toBitVec
    rw [apply_ite UInt8.toBitVec]
    simpa [← UInt8.toBitVec_inj] using h
  rw [inter, isSampled, sampled, hByte]
  split <;> simp_all [none]

theorem TraceFlags.inter_sampled_ofNat (n : Nat) :
    inter ⟨UInt8.ofNat (n % 2)⟩ .sampled = ⟨UInt8.ofNat (n % 2)⟩ := by
  rcases Nat.mod_two_eq_zero_or_one n with h | h <;> rw [h] <;> decide

namespace Jaeger

/-! ## The canonical header -/

/-- The fields that a context is written with. -/
def canonicalFields (sc : SpanContext) : Fields :=
  ⟨Text.Hex.fixed 32 sc.traceId.toNat, Text.Hex.fixed 16 sc.spanId.toNat, ['0'],
    [if sc.isSampled then '1' else '0']⟩

theorem encode_of_isValid {sc : SpanContext} (h : sc.isValid = true) :
    encode sc = some (String.ofList (canonicalFields sc).text) := by
  rw [encode, if_pos h, Option.some.injEq, ← String.toList_inj, canonicalFields]
  cases sc.isSampled <;> simp [Fields.text, TraceId.text, SpanId.text]

theorem isDigit_of_mem_fixed {width n : Nat} {c : Char} (h : c ∈ Text.Hex.fixed width n) :
    Text.Hex.isDigit c = true :=
  Text.Hex.isDigit_of_isLowerDigit (Text.Hex.isLowerDigit_of_mem_fixed h)

/-- What a canonical header is made of: digits, colons and nothing else. -/
theorem mem_canonicalText {sc : SpanContext} {c : Char} (h : c ∈ (canonicalFields sc).text) :
    Text.Hex.isDigit c = true ∨ c = ':' := by
  simp only [Fields.text, canonicalFields, List.mem_append, List.mem_cons, List.not_mem_nil,
    or_false] at h
  rcases h with h | rfl | h | rfl | rfl | rfl | rfl
  · exact .inl (isDigit_of_mem_fixed h)
  · exact .inr rfl
  · exact .inl (isDigit_of_mem_fixed h)
  · exact .inr rfl
  · exact .inl (by decide)
  · exact .inr rfl
  · cases sc.isSampled <;> exact .inl (by decide)

theorem colon_notMem_fixed (width n : Nat) : ':' ∉ Text.Hex.fixed width n :=
  fun h => absurd (isDigit_of_mem_fixed h) (by decide)

theorem count_canonicalText (sc : SpanContext) : (canonicalFields sc).text.count ':' = 3 := by
  simp only [Fields.text, canonicalFields, List.count_append, List.count_cons_self,
    List.count_eq_zero.2 (colon_notMem_fixed _ _)]
  cases sc.isSampled <;> decide

theorem isNumeral_fixed {width : Nat} (hWidth : 1 ≤ width) (n : Nat) :
    IsNumeral width (Text.Hex.fixed width n) := by
  rw [IsNumeral, Text.Hex.length_fixed]
  exact ⟨hWidth, Nat.le_refl _, fun c hc => isDigit_of_mem_fixed hc⟩

theorem value_canonicalFields (sc : SpanContext) :
    Text.Hex.value (canonicalFields sc).traceId = sc.traceId.toNat ∧
      Text.Hex.value (canonicalFields sc).spanId = sc.spanId.toNat := by
  have hTrace : sc.traceId.toNat < Nat.pow 16 32 := sc.traceId.val.isLt
  have hSpan : sc.spanId.toNat < Nat.pow 16 16 := sc.spanId.val.isLt
  exact ⟨by rw [canonicalFields, Text.Hex.value_fixed, Nat.mod_eq_of_lt hTrace],
    by rw [canonicalFields, Text.Hex.value_fixed, Nat.mod_eq_of_lt hSpan]⟩

/-- A canonical header can be read, however much of it is escaped. -/
theorem wellFormed_of_escapes {sc : SpanContext} (hValid : sc.isValid = true) {v : String}
    (h : Text.Escapes (canonicalFields sc).text v.toList) : WellFormed v (canonicalFields sc) := by
  have hAscii : ∀ c ∈ (canonicalFields sc).text, c.toNat ≤ 127 ∧ c ≠ '%' := by
    intro c hc
    rcases mem_canonicalText hc with hDigit | rfl
    · obtain ⟨n, hn⟩ := Option.isSome_iff_exists.1 hDigit
      refine ⟨Text.Hex.toNat_le_of_digitValue? hn, ?_⟩
      rintro rfl
      exact absurd hDigit (by decide)
    · decide
  obtain ⟨hTrace, hSpan⟩ := value_canonicalFields sc
  rw [SpanContext.isValid, Bool.and_eq_true, TraceId.isValid_iff, SpanId.isValid_iff] at hValid
  refine ⟨⟨(h.bytes_eq hAscii).symm, count_canonicalText sc⟩, fun check => ?_⟩
  cases check with
  | encoding => trivial
  | fieldCount => trivial
  | traceId => exact isNumeral_fixed (by decide) _
  | spanId => exact isNumeral_fixed (by decide) _
  | flags =>
    show IsByte [if sc.isSampled then '1' else '0']
    refine ⟨Nat.le_refl _, fun c hc => ?_, ?_⟩
    · rw [List.mem_singleton.1 hc]
      split <;> decide
    · split <;> decide
  | zeroId => exact ⟨hTrace ▸ hValid.1, hSpan ▸ hValid.2⟩

/-- What is read back: the identity, the sampled bit, and nothing else. -/
theorem context_canonicalFields (sc : SpanContext) :
    (canonicalFields sc).context = ⟨sc.traceId, sc.spanId, sc.flags.inter .sampled, .empty⟩ := by
  obtain ⟨hTrace, hSpan⟩ := value_canonicalFields sc
  have hFlags : (⟨UInt8.ofNat (Text.decimalValue (canonicalFields sc).flags % 2)⟩ : TraceFlags) =
      sc.flags.inter .sampled := by
    rw [TraceFlags.inter_sampled, canonicalFields, SpanContext.isSampled]
    cases sc.flags.isSampled <;> rfl
  rw [Fields.context, hTrace, hSpan, hFlags, TraceId.ofNat_toNat, SpanId.ofNat_toNat]

/-- The form of a canonical header: 32 and 16 lower-case digits, the digit zero, and one digit for
the sampled bit. -/
structure Canonical (sc : SpanContext) (f : Fields) : Prop where
  traceId_length : f.traceId.length = 32
  spanId_length : f.spanId.length = 16
  lower : ∀ c ∈ f.traceId ++ f.spanId, Text.Hex.isLowerDigit c = true
  traceId_eq : Text.Hex.value f.traceId = sc.traceId.toNat
  spanId_eq : Text.Hex.value f.spanId = sc.spanId.toNat
  parent_eq : f.parent = ['0']
  flags_eq : f.flags = [if sc.isSampled then '1' else '0']

theorem canonical_canonicalFields (sc : SpanContext) : Canonical sc (canonicalFields sc) where
  traceId_length := Text.Hex.length_fixed _ _
  spanId_length := Text.Hex.length_fixed _ _
  lower _ hc := (List.mem_append.1 hc).elim Text.Hex.isLowerDigit_of_mem_fixed
    Text.Hex.isLowerDigit_of_mem_fixed
  traceId_eq := (value_canonicalFields sc).1
  spanId_eq := (value_canonicalFields sc).2
  parent_eq := rfl
  flags_eq := rfl

/-- **Headers make the round trip.** An invalid context has no header. The header of a valid one,
with any of its characters escaped, is read as that context without its trace state and with no flag
but the sampled one. And what any header is read as, if it is valid, has a canonical header, which
is read as the same. -/
theorem header_round_trip :
    (∀ sc : SpanContext, sc.isValid = false → encode sc = none) ∧
    (∀ sc : SpanContext, sc.isValid = true →
      ∃ text, encode sc = some text ∧
        ∀ v : String, Text.Escapes text.toList v.toList →
          decode v = ⟨sc.traceId, sc.spanId, sc.flags.inter .sampled, .empty⟩) ∧
    (∀ v : String, (decode v).isValid = true →
      ∃ f, Canonical (decode v) f ∧ encode (decode v) = some (String.ofList f.text) ∧
        decode (String.ofList f.text) = decode v) := by
  have hRead : ∀ sc : SpanContext, sc.isValid = true → ∀ v : String,
      Text.Escapes (canonicalFields sc).text v.toList →
        decode v = ⟨sc.traceId, sc.spanId, sc.flags.inter .sampled, .empty⟩ := by
    intro sc hValid v hEscapes
    rw [decode_of_wellFormed (wellFormed_of_escapes hValid hEscapes), context_canonicalFields]
  refine ⟨fun sc hInvalid => encode_eq_none_iff.2 hInvalid, fun sc hValid => ?_, fun v hValid => ?_⟩
  · refine ⟨_, encode_of_isValid hValid, fun v hEscapes => hRead sc hValid v ?_⟩
    rwa [String.toList_ofList] at hEscapes
  · refine ⟨_, canonical_canonicalFields _, encode_of_isValid hValid, ?_⟩
    rw [hRead _ hValid _ (by rw [String.toList_ofList]; exact .refl _)]
    obtain ⟨f, hf, -⟩ | ⟨fault, -, hFault⟩ := parse_cases v
    · rw [decode_of_wellFormed hf, Fields.context, TraceFlags.inter_sampled_ofNat]
    · rw [decode_of_parse hFault] at hValid
      exact absurd hValid (by decide)

example : decode "0000000000000000000000000000004d%3a0000000000017c29:0:%31" =
    ⟨.ofNat 0x4d, .ofNat 0x17c29, .sampled, .empty⟩ := by cbv

end Jaeger

end SpanFlow
