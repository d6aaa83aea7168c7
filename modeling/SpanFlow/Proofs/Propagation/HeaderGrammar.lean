import SpanFlow.Proofs.Text.Cutting
import SpanFlow.Proofs.Text.Numerals
import SpanFlow.Propagation.Propagator

/-!
# Which headers can be read

A header stands for a text: its bytes, with the percent escapes replaced, must be UTF-8. That text
must be four fields with three colons between them. The first two are hexadecimal numerals in either
case, of 32 and of 16 digits at most, and neither is zero; the third may be anything; the last
spells a byte in decimal digits, of which only the lowest bit is kept.

`WellFormed` says this of a header and its fields, without the functions that read one. `Passes`
says it check by check, so that the reason for which a header is refused can be told: it is the
first check, in the order of their ranks, that the header does not pass.

Numbers here are natural numbers of any size. That an identifier fits its width is a theorem about
the length of its field, `IsNumeral.value_lt`, and not a matter of how the number is read.

## Main results

* `parse_eq_ok_iff`: a header is read just if it is well-formed, and what is read then.
* `parse_eq_error_iff`: a header is refused for the first check that it does not pass.
* `header_reading`: both, as what decoding and extraction show of them.
-/

namespace SpanFlow

namespace Jaeger

/-! ## What a header must be -/

/-- The four fields of a header. -/
structure Fields where
  traceId : List Char
  spanId : List Char
  parent : List Char
  flags : List Char

/-- The text of four fields. -/
def Fields.text (f : Fields) : List Char :=
  f.traceId ++ ':' :: (f.spanId ++ ':' :: (f.parent ++ ':' :: f.flags))

/-- The bytes that a header stands for, its escapes replaced. -/
def bytesOf (v : String) : List UInt8 := Text.Percent.decode (Text.Utf8.encode v.toList)

/-- These are the fields of a header: their text is what the header stands for, and it has three
colons, those between the fields. -/
structure Fields.Of (v : String) (f : Fields) : Prop where
  text_eq : Text.Utf8.encode f.text = bytesOf v
  colons_eq : f.text.count ':' = 3

/-- A hexadecimal numeral of one to `width` digits. -/
def IsNumeral (width : Nat) (field : List Char) : Prop :=
  1 ≤ field.length ∧ field.length ≤ width ∧ ∀ c ∈ field, Text.Hex.isDigit c = true

/-- Decimal digits that spell a byte. -/
def IsByte (field : List Char) : Prop :=
  1 ≤ field.length ∧ (∀ c ∈ field, '0' ≤ c ∧ c ≤ '9') ∧ Text.decimalValue field ≤ 255

/-- The place of a check among the others. -/
def Fault.rank : Fault → Nat
  | .encoding => 0
  | .fieldCount => 1
  | .traceId => 2
  | .spanId => 3
  | .flags => 4
  | .zeroId => 5

/-- What a check asks of fields that are there. -/
def Fields.Passes (f : Fields) : Fault → Prop
  | .encoding | .fieldCount => True
  | .traceId => IsNumeral 32 f.traceId
  | .spanId => IsNumeral 16 f.spanId
  | .flags => IsByte f.flags
  | .zeroId => Text.Hex.value f.traceId ≠ 0 ∧ Text.Hex.value f.spanId ≠ 0

/-- A header that can be read, with its fields. -/
structure WellFormed (v : String) (f : Fields) : Prop where
  fields : f.Of v
  passes : ∀ check, f.Passes check

/-- What a check asks of a header. -/
def Passes (v : String) : Fault → Prop
  | .encoding => ∃ text, Text.Utf8.encode text = bytesOf v
  | check => ∃ f : Fields, f.Of v ∧ f.Passes check

/-- A check that a header does not pass, while it passes all checks before it. -/
structure FirstFailing (v : String) (fault : Fault) : Prop where
  fails : ¬ Passes v fault
  passes : ∀ check : Fault, check.rank < fault.rank → Passes v check

/-- The context that fields spell. -/
def Fields.context (f : Fields) : SpanContext :=
  ⟨.ofNat (Text.Hex.value f.traceId), .ofNat (Text.Hex.value f.spanId),
    ⟨UInt8.ofNat (Text.decimalValue f.flags % 2)⟩, .empty⟩

theorem Fault.eq_of_rank_eq {a b : Fault} (h : a.rank = b.rank) : a = b := by
  cases a <;> cases b <;> first | rfl | cases h

theorem FirstFailing.unique {v : String} {a b : Fault} (ha : FirstFailing v a)
    (hb : FirstFailing v b) : a = b := by
  rcases Nat.lt_trichotomy a.rank b.rank with h | h | h
  · exact absurd (hb.passes a h) ha.fails
  · exact Fault.eq_of_rank_eq h
  · exact absurd (ha.passes b h) hb.fails

/-! ## What the functions that read a header make of it -/

/-- Fields are those that a text is cut into, if there are four of them. -/
theorem splitOn_text_iff {f : Fields} {text : List Char} :
    Text.splitOn ':' text = [f.traceId, f.spanId, f.parent, f.flags] ↔
      f.text = text ∧ f.text.count ':' = 3 := by
  rw [Text.splitOn_eq_iff]
  have hText : [':'].intercalate [f.traceId, f.spanId, f.parent, f.flags] = f.text := by
    simp [Fields.text]
  have hCount : f.text.count ':' = f.traceId.count ':' + f.spanId.count ':' +
      f.parent.count ':' + f.flags.count ':' + 3 := by
    simp only [Fields.text, List.count_append, List.count_cons_self]
    omega
  rw [hText, hCount]
  simp only [← List.count_eq_zero, List.mem_cons, List.not_mem_nil, or_false, forall_eq_or_imp,
    forall_eq]
  constructor
  · rintro ⟨-, rfl, hTrace, hSpan, hParent, hFlags⟩
    exact ⟨rfl, by omega⟩
  · rintro ⟨rfl, hSum⟩
    exact ⟨List.cons_ne_nil _ _, rfl, by omega, by omega, by omega, by omega⟩

theorem Fields.Of.unique {v : String} {f g : Fields} (hf : f.Of v) (hg : g.Of v) : f = g := by
  have hText : f.text = g.text := by
    have h := Text.Utf8.decode?_encode f.text
    rw [hf.text_eq, ← hg.text_eq, Text.Utf8.decode?_encode] at h
    exact (Option.some.inj h).symm
  have hCut := splitOn_text_iff.2 ⟨rfl, hf.colons_eq⟩
  rw [hText, splitOn_text_iff.2 ⟨rfl, hg.colons_eq⟩] at hCut
  cases f
  cases g
  simpa [eq_comm] using hCut

theorem hexField?_eq_some_iff {width n : Nat} {field : List Char} :
    hexField? width field = some n ↔ IsNumeral width field ∧ Text.Hex.value field = n := by
  have hLength : (∀ c ∈ field, Text.Hex.isDigit c = true) →
      Text.Utf8.byteLength field = field.length := fun h =>
    byteLength_eq_length fun c hc => Text.Hex.utf8Size_of_isDigit (h c hc)
  unfold hexField? IsNumeral
  split
  · rename_i hNone
    simp only [reduceCtorEq, false_iff, not_and]
    rintro ⟨hPos, hLe, hAll⟩
    simp only [hLength hAll, List.all_eq_true.2 hAll, Bool.not_true, Bool.or_false,
      Bool.or_eq_true, List.isEmpty_iff, decide_eq_true_eq] at hNone
    rcases hNone with rfl | hLong
    · simp at hPos
    · omega
  · rename_i hSome
    simp only [Bool.or_eq_true, not_or, List.isEmpty_iff, decide_eq_true_eq, Bool.not_eq_true',
      Bool.not_eq_false, List.all_eq_true] at hSome
    obtain ⟨⟨hNe, hLe⟩, hAll⟩ := hSome
    rw [hLength hAll] at hLe
    have hPos := List.length_pos_iff.2 hNe
    simp only [Option.some.injEq, iff_and_self]
    exact fun _ => ⟨hPos, by omega, hAll⟩

/-- A numeral fits the bits that its width gives. -/
theorem IsNumeral.value_lt {width : Nat} {field : List Char} (h : IsNumeral width field) :
    Text.Hex.value field < 2 ^ (4 * width) :=
  calc Text.Hex.value field < 16 ^ field.length := Text.Hex.value_lt field
    _ ≤ 16 ^ width := Nat.pow_le_pow_right (by decide) h.2.1
    _ = 2 ^ (4 * width) := by rw [Nat.pow_mul]

theorem bits_withSampled_none (n : Nat) :
    TraceFlags.none.withSampled (n % 2 == 1) = ⟨UInt8.ofNat (n % 2)⟩ := by
  rcases Nat.mod_two_eq_zero_or_one n with h | h <;> rw [h] <;> rfl

theorem flagsField?_eq_some_iff {field : List Char} {flags : TraceFlags} :
    flagsField? field = some flags ↔
      IsByte field ∧ flags = ⟨UInt8.ofNat (Text.decimalValue field % 2)⟩ := by
  unfold flagsField? IsByte
  split
  · rename_i n hDecimal
    obtain ⟨hNe, hDigits, rfl⟩ := Text.decimal?_eq_some_iff.1 hDecimal
    have hPos := List.length_pos_iff.2 hNe
    split
    · rename_i hLt
      rw [bits_withSampled_none, Option.some.injEq]
      exact ⟨fun h => ⟨⟨hPos, hDigits, by omega⟩, h.symm⟩, fun h => h.2.symm⟩
    · rename_i hLarge
      simp only [reduceCtorEq, false_iff, not_and]
      exact fun h => absurd h.2.2 (by omega)
  · rename_i hDecimal
    simp only [reduceCtorEq, false_iff, not_and]
    rintro ⟨hPos, hDigits, -⟩
    rw [Text.decimal?_eq_some_iff.2 ⟨List.length_pos_iff.1 hPos, hDigits, rfl⟩] at hDecimal
    cases hDecimal

theorem Fields.isValid_context (f : Fields) (hTrace : IsNumeral 32 f.traceId)
    (hSpan : IsNumeral 16 f.spanId) :
    f.context.isValid = true ↔
      Text.Hex.value f.traceId ≠ 0 ∧ Text.Hex.value f.spanId ≠ 0 := by
  rw [SpanContext.isValid, Bool.and_eq_true, TraceId.isValid_iff, SpanId.isValid_iff]
  rw [Fields.context, TraceId.toNat_ofNat (hTrace.value_lt), SpanId.toNat_ofNat hSpan.value_lt]

/-- Fields are read if they pass all checks, and otherwise the first check that they do not pass
gives the fault. -/
theorem ofFields_cases (f : Fields) :
    (ofFields f.traceId f.spanId f.flags = .ok f.context ∧ ∀ check, f.Passes check) ∨
      ∃ fault, ofFields f.traceId f.spanId f.flags = .error fault ∧ ¬ f.Passes fault ∧
        Fault.fieldCount.rank < fault.rank ∧
        ∀ check : Fault, check.rank < fault.rank → f.Passes check := by
  by_cases hTrace : IsNumeral 32 f.traceId
  · by_cases hSpan : IsNumeral 16 f.spanId
    · by_cases hFlags : IsByte f.flags
      · have hRead : ofFields f.traceId f.spanId f.flags =
            if f.context.isValid then .ok f.context else .error .zeroId := by
          simp only [ofFields, hexField?_eq_some_iff.2 ⟨hTrace, rfl⟩,
            hexField?_eq_some_iff.2 ⟨hSpan, rfl⟩, flagsField?_eq_some_iff.2 ⟨hFlags, rfl⟩]
          rfl
        rw [hRead]
        by_cases hZero : Text.Hex.value f.traceId ≠ 0 ∧ Text.Hex.value f.spanId ≠ 0
        · refine .inl ⟨if_pos ((f.isValid_context hTrace hSpan).2 hZero), fun check => ?_⟩
          cases check <;> simp_all [Fields.Passes]
        · refine .inr ⟨.zeroId, if_neg (mt (f.isValid_context hTrace hSpan).1 hZero), hZero,
            by decide, fun check hLt => ?_⟩
          cases check <;> simp_all [Fields.Passes, Fault.rank]
      · have hNone : flagsField? f.flags = none :=
          Option.eq_none_iff_forall_ne_some.2 fun n h => hFlags (flagsField?_eq_some_iff.1 h).1
        refine .inr ⟨.flags, ?_, hFlags, by decide, fun check hLt => ?_⟩
        · simp only [ofFields, hexField?_eq_some_iff.2 ⟨hTrace, rfl⟩,
            hexField?_eq_some_iff.2 ⟨hSpan, rfl⟩, hNone]
        · cases check <;> simp_all [Fields.Passes, Fault.rank]
    · have hNone : hexField? 16 f.spanId = none :=
        Option.eq_none_iff_forall_ne_some.2 fun n h => hSpan (hexField?_eq_some_iff.1 h).1
      refine .inr ⟨.spanId, ?_, hSpan, by decide, fun check hLt => ?_⟩
      · simp only [ofFields, hexField?_eq_some_iff.2 ⟨hTrace, rfl⟩, hNone]
      · cases check <;> simp_all [Fields.Passes, Fault.rank]
  · have hNone : hexField? 32 f.traceId = none :=
      Option.eq_none_iff_forall_ne_some.2 fun n h => hTrace (hexField?_eq_some_iff.1 h).1
    refine .inr ⟨.traceId, ?_, hTrace, by decide, fun check hLt => ?_⟩
    · simp only [ofFields, hNone]
    · cases check <;> simp_all [Fields.Passes, Fault.rank]

theorem parse_of_fields {v : String} {f : Fields} (h : f.Of v) :
    parse v = ofFields f.traceId f.spanId f.flags := by
  have hText : Text.Utf8.decode? (bytesOf v) = some f.text :=
    Text.Utf8.decode?_eq_some_iff.2 h.text_eq
  rw [bytesOf] at hText
  rw [parse, hText]
  simp only [splitOn_text_iff.2 ⟨rfl, h.colons_eq⟩]

theorem parse_of_no_fields {v : String} {text : List Char}
    (hText : Text.Utf8.encode text = bytesOf v) (hNone : ¬ ∃ f : Fields, f.Of v) :
    parse v = .error .fieldCount := by
  have hDecode := Text.Utf8.decode?_eq_some_iff.2 hText
  rw [bytesOf] at hDecode
  simp only [parse, hDecode]
  split
  · rename_i traceId spanId parent flags hCut
    obtain ⟨hJoined, hColons⟩ :=
      (splitOn_text_iff (f := ⟨traceId, spanId, parent, flags⟩)).1 hCut
    exact absurd ⟨_, by rw [hJoined, hText], hColons⟩ hNone
  · rfl

theorem parse_of_no_text {v : String} (hNone : ¬ ∃ text, Text.Utf8.encode text = bytesOf v) :
    parse v = .error .encoding := by
  have hDecode : Text.Utf8.decode? (bytesOf v) = none :=
    Option.eq_none_iff_forall_ne_some.2 fun text h =>
      hNone ⟨text, Text.Utf8.decode?_eq_some_iff.1 h⟩
  rw [bytesOf] at hDecode
  rw [parse, hDecode]

/-- A check of the fields of a header asks of the header what it asks of them. -/
theorem passes_iff {v : String} {f : Fields} (h : f.Of v) (check : Fault) :
    Passes v check ↔ f.Passes check := by
  have hFields : (∃ g : Fields, g.Of v ∧ g.Passes check) ↔ f.Passes check :=
    ⟨fun ⟨_, hg, hPasses⟩ => hg.unique h ▸ hPasses, fun hPasses => ⟨f, h, hPasses⟩⟩
  cases check with
  | encoding => exact ⟨fun _ => trivial, fun _ => ⟨f.text, h.text_eq⟩⟩
  | fieldCount => exact hFields
  | traceId => exact hFields
  | spanId => exact hFields
  | flags => exact hFields
  | zeroId => exact hFields

/-- A header is read if it passes all checks, and is refused for the first that it does not
pass. -/
theorem parse_cases (v : String) :
    (∃ f, WellFormed v f ∧ parse v = .ok f.context) ∨
      ∃ fault, FirstFailing v fault ∧ parse v = .error fault := by
  by_cases hFields : ∃ f : Fields, f.Of v
  · obtain ⟨f, hf⟩ := hFields
    rw [parse_of_fields hf]
    obtain ⟨hRead, hAll⟩ | ⟨fault, hRead, hFails, -, hBefore⟩ := ofFields_cases f
    · exact .inl ⟨f, ⟨hf, hAll⟩, hRead⟩
    · refine .inr ⟨fault, ⟨mt (passes_iff hf fault).1 hFails, fun check hLt => ?_⟩, hRead⟩
      exact (passes_iff hf check).2 (hBefore check hLt)
  · by_cases hText : ∃ text, Text.Utf8.encode text = bytesOf v
    · obtain ⟨text, hText⟩ := hText
      refine .inr ⟨.fieldCount, ⟨fun ⟨f, hf, _⟩ => hFields ⟨f, hf⟩, fun check hLt => ?_⟩,
        parse_of_no_fields hText hFields⟩
      cases check with
      | encoding => exact ⟨text, hText⟩
      | _ => exact absurd hLt (by decide)
    · exact .inr ⟨.encoding, ⟨hText, fun check hLt => absurd hLt (Nat.not_lt_zero _)⟩,
        parse_of_no_text hText⟩

theorem WellFormed.not_firstFailing {v : String} {f : Fields} (h : WellFormed v f)
    {fault : Fault} : ¬ FirstFailing v fault :=
  fun hFirst => hFirst.fails ((passes_iff h.fields fault).2 (h.passes fault))

/-- A header is read just if it is well-formed, and then as the context that its fields spell. -/
theorem parse_eq_ok_iff {v : String} {sc : SpanContext} :
    parse v = .ok sc ↔ ∃ f, WellFormed v f ∧ f.context = sc := by
  obtain ⟨f, hf, hParse⟩ | ⟨fault, hFirst, hParse⟩ := parse_cases v
  · rw [hParse, Except.ok.injEq]
    exact ⟨fun h => ⟨f, hf, h⟩, fun ⟨_, hg, h⟩ => hf.fields.unique hg.fields ▸ h⟩
  · rw [hParse]
    exact ⟨fun h => (nomatch h), fun ⟨_, hg, _⟩ => absurd hFirst hg.not_firstFailing⟩

/-- A header is refused for the first check that it does not pass. -/
theorem parse_eq_error_iff {v : String} {fault : Fault} :
    parse v = .error fault ↔ FirstFailing v fault := by
  obtain ⟨f, hf, hParse⟩ | ⟨other, hFirst, hParse⟩ := parse_cases v
  · rw [hParse]
    exact ⟨fun h => (nomatch h), fun h => absurd h hf.not_firstFailing⟩
  · rw [hParse, Except.error.injEq]
    exact ⟨fun h => h ▸ hFirst, fun h => hFirst.unique h⟩

theorem decode_of_wellFormed {v : String} {f : Fields} (h : WellFormed v f) :
    decode v = f.context := by
  rw [decode, parse_eq_ok_iff.2 ⟨f, h, rfl⟩]

/-- **Reading a header.** A header is read just if it is well-formed, and then as the context that
its fields spell, with no number too large for where it goes. Every other header gives the context
of no span, and whoever extracts it is told the first check that it does not pass. -/
theorem header_reading (v : String) :
    (decode v ≠ .none ↔ ∃ f, WellFormed v f) ∧
    (∀ f, WellFormed v f →
      (decode v).traceId.toNat = Text.Hex.value f.traceId ∧
      (decode v).spanId.toNat = Text.Hex.value f.spanId ∧
      (decode v).flags.bits.toNat = Text.decimalValue f.flags % 2 ∧
      (decode v).state = .empty ∧
      ∀ header (reader : Extractor) cx next, reader.get? header = some v →
        (Propagator.jaeger header).extract reader cx next =
          ⟨cx.withRemote next (decode v), [], next + 1⟩) ∧
    ((¬ ∃ f, WellFormed v f) →
      decode v = .none ∧
      ∃ fault, FirstFailing v fault ∧
        ∀ header (reader : Extractor) cx next, reader.get? header = some v →
          (Propagator.jaeger header).extract reader cx next =
            ⟨cx, [.unreadableHeader header fault], next⟩) ∧
    (∀ field n, hexField? 32 field = some n → n < 2 ^ 128) ∧
    (∀ field n, hexField? 16 field = some n → n < 2 ^ 64) := by
  refine ⟨⟨fun hRead => ?_, fun ⟨f, hf⟩ => ?_⟩, fun f hf => ?_, fun hNone => ?_,
    fun field n h => ?_, fun field n h => ?_⟩
  · obtain ⟨f, hf, -⟩ | ⟨fault, -, hParse⟩ := parse_cases v
    · exact ⟨f, hf⟩
    · exact absurd (decode_of_parse hParse) hRead
  · have hValid :=
      (f.isValid_context (hf.passes .traceId) (hf.passes .spanId)).2 (hf.passes .zeroId)
    rw [decode_of_wellFormed hf]
    intro hEq
    rw [hEq] at hValid
    exact absurd hValid (by decide)
  · refine ⟨?_, ?_, ?_, ?_, fun header reader cx next hRead => ?_⟩
    · rw [decode_of_wellFormed hf]
      exact TraceId.toNat_ofNat (hf.passes .traceId).value_lt
    · rw [decode_of_wellFormed hf]
      exact SpanId.toNat_ofNat (hf.passes .spanId).value_lt
    · rw [decode_of_wellFormed hf]
      rcases Nat.mod_two_eq_zero_or_one (Text.decimalValue f.flags) with h | h <;>
        simp [Fields.context, h]
    · rw [decode_of_wellFormed hf]
      rfl
    · rw [decode_of_wellFormed hf, Propagator.extract, Propagator.extractJaeger, hRead]
      simp only [parse_eq_ok_iff.2 ⟨f, hf, rfl⟩]
  · obtain ⟨f, hf, -⟩ | ⟨fault, hFirst, hParse⟩ := parse_cases v
    · exact absurd ⟨f, hf⟩ hNone
    · refine ⟨decode_of_parse hParse, fault, hFirst, fun header reader cx next hRead => ?_⟩
      rw [Propagator.extract, Propagator.extractJaeger, hRead]
      simp only [hParse]
  · obtain ⟨hNumeral, rfl⟩ := hexField?_eq_some_iff.1 h
    exact hNumeral.value_lt
  · obtain ⟨hNumeral, rfl⟩ := hexField?_eq_some_iff.1 h
    exact hNumeral.value_lt

/-- Escapes go first: an escaped colon separates fields, and an escaped digit is a digit. -/
theorem header_reading_escaped :
    WellFormed "4D%3A17c29::%3007" ⟨['4', 'D'], ['1', '7', 'c', '2', '9'], [], ['0', '0', '7']⟩ ∧
      (decode "4D%3A17c29::%3007").traceId.toNat = 0x4d ∧
      (decode "4D%3A17c29::%3007").spanId.toNat = 0x17c29 ∧
      (decode "4D%3A17c29::%3007").flags.bits.toNat = 1 := by
  have hForm : WellFormed "4D%3A17c29::%3007"
      ⟨['4', 'D'], ['1', '7', 'c', '2', '9'], [], ['0', '0', '7']⟩ := by
    refine ⟨⟨by decide, by decide⟩, fun check => ?_⟩
    cases check <;> simp [Fields.Passes, IsNumeral, IsByte] <;> decide
  obtain ⟨hTrace, hSpan, hFlags, -⟩ := (header_reading "4D%3A17c29::%3007").2.1 _ hForm
  exact ⟨hForm, hTrace, hSpan, hFlags⟩

-- A sign is not a digit.
example : parse "4d:+1:0:1" = .error .spanId := by cbv

end Jaeger

end SpanFlow
