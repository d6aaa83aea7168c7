import SpanFlow.SpanContext
import SpanFlow.Text.Blank
import SpanFlow.Text.Numeral
import SpanFlow.Text.Percent

/-!
# The Jaeger header

One header carries a span context between processes: trace identifier, span identifier, the
identifier of a parent, which is no longer used, and flags, with colons between them. The whole may
be percent-escaped. Of the flags only the sampled bit travels, and the trace state does not.

Identifiers are read in either case and with fewer digits than they are written with.

## Main results

* `encode_eq_none_iff`: exactly the valid contexts have a header.
* `decode_of_parse`: what cannot be read is the context of no span.
-/

namespace SpanFlow.Jaeger

/-- The header used unless another is named. -/
def standardHeader : String := "uber-trace-id"

/-- The header that a name stands for: blanks around it do not count, and a blank name stands for
the standard header. -/
def headerNamed (name : String) : String :=
  let trimmed := Text.trimmed name
  if trimmed.isEmpty then standardHeader else trimmed

/-- Why a header cannot be read; the first check that fails gives the reason. -/
inductive Fault where
  | encoding
  | fieldCount
  | traceId
  | spanId
  | flags
  | zeroId
  deriving DecidableEq

/-- The wording of a reason. -/
def Fault.reason : Fault → String
  | .encoding => "header is not valid utf-8"
  | .fieldCount => "expected four colon separated fields"
  | .traceId => "invalid trace id"
  | .spanId => "invalid span id"
  | .flags => "invalid flags"
  | .zeroId => "zero trace or span id"

/-- The number in a field of one to `width` hexadecimal digits. -/
def hexField? (width : Nat) (field : List Char) : Option Nat :=
  if field.isEmpty || width < Text.Utf8.byteLength field || !field.all Text.Hex.isDigit then none
  else some (Text.Hex.value field)

/-- The flags in a field: decimal digits that spell a byte, of which the sampled bit is kept. -/
def flagsField? (field : List Char) : Option TraceFlags :=
  match Text.decimal? field with
  | some n => if n < 256 then some (TraceFlags.none.withSampled (n % 2 == 1)) else none
  | none => none

/-- Reads the four fields in order. -/
def ofFields (traceId spanId flags : List Char) : Except Fault SpanContext :=
  match hexField? 32 traceId with
  | none => .error .traceId
  | some t =>
    match hexField? 16 spanId with
    | none => .error .spanId
    | some s =>
      match flagsField? flags with
      | none => .error .flags
      | some f =>
        let sc : SpanContext := ⟨.ofNat t, .ofNat s, f, .empty⟩
        if sc.isValid then .ok sc else .error .zeroId

/-- Reads a header. -/
def parse (value : String) : Except Fault SpanContext :=
  match Text.Utf8.decode? (Text.Percent.decode (Text.Utf8.encode value.toList)) with
  | none => .error .encoding
  | some text =>
    match Text.splitOn ':' text with
    | [traceId, spanId, _, flags] => ofFields traceId spanId flags
    | _ => .error .fieldCount

/-- The context in a header, or the context of no span. -/
def decode (value : String) : SpanContext :=
  match parse value with
  | .ok sc => sc
  | .error _ => .none

/-- The header of a valid context. -/
def encode (sc : SpanContext) : Option String :=
  if sc.isValid then
    some (sc.traceId.text ++ ":" ++ sc.spanId.text ++ ":0:" ++ if sc.isSampled then "1" else "0")
  else none

/-- Exactly the valid contexts have a header. -/
theorem encode_eq_none_iff {sc : SpanContext} : encode sc = none ↔ sc.isValid = false := by
  simp [encode]

/-- What cannot be read is the context of no span. -/
theorem decode_of_parse {value : String} {fault : Fault} (h : parse value = .error fault) :
    decode value = .none := by
  simp [decode, h]

end SpanFlow.Jaeger
