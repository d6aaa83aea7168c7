import SpanFlow.Text.Hex
import SpanFlow.Text.Quoted
import SpanFlow.Text.Utf8

/-!
# Identifiers of traces and spans

A trace is named by 128 bits and a span by 64; the number zero names nothing. Their text is a
hexadecimal numeral of fixed width in lower case, and only such a numeral is read back.

## Main results

* `TraceId.ofHex_text`, `SpanId.ofHex_text`: an identifier is read back from its text.
-/

namespace SpanFlow

/-- Why a text is no identifier. -/
inductive IdError where
  | length (expected found : Nat)
  | notHex (text : String)
  deriving DecidableEq

namespace IdError

/-- The wording of an error. -/
def message : IdError → String
  | .length expected found => s!"expected {expected} hex characters, found {found}"
  | .notHex text => s!"{Text.quote text} is not a lowercase hex string"

end IdError

/-- Judges whether a text is `width` lower-case digits. The length is judged first, and in bytes. -/
def checkHex (width : Nat) (text : String) : Except IdError Unit :=
  if Text.Utf8.byteLength text.toList ≠ width then
    .error (.length width (Text.Utf8.byteLength text.toList))
  else if text.toList.all Text.Hex.isLowerDigit then .ok ()
  else .error (.notHex text)

/-- The number that a numeral of `width` lower-case digits stands for. -/
def hexNumber (width : Nat) (text : String) : Except IdError Nat :=
  match checkHex width text with
  | .error e => .error e
  | .ok () =>
    match Text.Hex.number? (4 * width) text.toList with
    | none => .error (.notHex text)
    | some n => .ok n

/-- The last `count` bytes of a number, the most significant first. -/
def bigEndian : Nat → Nat → List UInt8
  | 0, _ => []
  | count + 1, n => bigEndian count (n / 256) ++ [UInt8.ofNat (n % 256)]

/-- The number that bytes spell, the most significant first. -/
def ofBigEndian (bytes : List UInt8) : Nat := bytes.foldl (fun acc b => 256 * acc + b.toNat) 0

theorem byteLength_eq_length {cs : List Char} (h : ∀ c ∈ cs, c.utf8Size = 1) :
    Text.Utf8.byteLength cs = cs.length := by
  induction cs with
  | nil => rfl
  | cons c rest ih =>
    have hRest := ih fun x hx => h x (List.mem_cons_of_mem _ hx)
    simp only [Text.Utf8.byteLength, List.foldr_cons, List.length_cons] at hRest ⊢
    rw [hRest, h c (by simp), Nat.add_comm]

theorem utf8Size_of_isLowerDigit {c : Char} (h : Text.Hex.isLowerDigit c = true) :
    c.utf8Size = 1 := by
  have hLe : c.val ≤ 127 := by
    simp only [Text.Hex.isLowerDigit, Bool.or_eq_true, Bool.and_eq_true, decide_eq_true_eq] at h
    rcases h with ⟨_, h⟩ | ⟨_, h⟩
    · exact UInt32.le_trans (show c.val ≤ ('9' : Char).val from h) (by decide)
    · exact UInt32.le_trans (show c.val ≤ ('f' : Char).val from h) (by decide)
  exact Char.utf8Size_eq_one_iff.2 hLe

theorem checkHex_fixed (width n : Nat) :
    checkHex width (String.ofList (Text.Hex.fixed width n)) = .ok () := by
  have hSize : ∀ c ∈ Text.Hex.fixed width n, c.utf8Size = 1 := fun c hc =>
    utf8Size_of_isLowerDigit (Text.Hex.isLowerDigit_of_mem_fixed hc)
  have hAll : (Text.Hex.fixed width n).all Text.Hex.isLowerDigit = true :=
    List.all_eq_true.2 fun c hc => Text.Hex.isLowerDigit_of_mem_fixed hc
  simp [checkHex, byteLength_eq_length hSize, hAll]

theorem hexNumber_fixed {width : Nat} (h : 0 < width) (n : Nat) :
    hexNumber width (String.ofList (Text.Hex.fixed width n)) = .ok (n % Nat.pow 16 width) := by
  have hNe : Text.Hex.fixed width n ≠ [] := by
    intro hNil
    have hLength := Text.Hex.length_fixed width n
    rw [hNil, List.length_nil] at hLength
    omega
  have hDigits : ∀ c ∈ Text.Hex.fixed width n, Text.Hex.isDigit c = true := fun c hc =>
    Text.Hex.isDigit_of_isLowerDigit (Text.Hex.isLowerDigit_of_mem_fixed hc)
  have hBits : Nat.pow 16 width = Nat.pow 2 (4 * width) := (Nat.pow_mul 2 4 width).symm
  have hLt : Text.Hex.value (Text.Hex.fixed width n) < Nat.pow 2 (4 * width) := by
    rw [Text.Hex.value_fixed, hBits]
    exact Nat.mod_lt _ (Nat.pow_pos (by decide))
  have hNumber := Text.Hex.number?_of_digits hNe hDigits hLt
  simp [hexNumber, checkHex_fixed, hNumber, Text.Hex.value_fixed]

/-- The identifier of a trace. -/
structure TraceId where
  val : BitVec 128
  deriving DecidableEq

namespace TraceId

/-- The identifier that names no trace. -/
def invalid : TraceId := ⟨0⟩

/-- Whether an identifier names a trace. -/
def isValid (id : TraceId) : Bool := id ≠ invalid

/-- The identifier with a number, modulo its width. -/
def ofNat (n : Nat) : TraceId := ⟨BitVec.ofNat 128 n⟩

/-- The number of an identifier. -/
def toNat (id : TraceId) : Nat := id.val.toNat

/-- The text of an identifier: 32 digits. -/
def text (id : TraceId) : String := String.ofList (Text.Hex.fixed 32 id.toNat)

/-- The numeral of an identifier without leading zeros. -/
def lowerHex (id : TraceId) : String := String.ofList (Text.Hex.minimal id.toNat)

/-- Reads an identifier from its text. -/
def ofHex (text : String) : Except IdError TraceId := (hexNumber 32 text).map ofNat

/-- The sixteen bytes of an identifier. -/
def toBytes (id : TraceId) : List UInt8 := bigEndian 16 id.toNat

/-- The identifier that bytes spell. -/
def ofBytes (bytes : List UInt8) : TraceId := ofNat (ofBigEndian bytes)

@[simp] theorem ofNat_toNat (id : TraceId) : ofNat id.toNat = id := by
  simp [ofNat, toNat]

theorem toNat_ofNat {n : Nat} (h : n < Nat.pow 2 128) : (ofNat n).toNat = n := by
  rw [toNat, ofNat, BitVec.toNat_ofNat, Nat.mod_eq_of_lt h]

theorem isValid_iff (id : TraceId) : id.isValid = true ↔ id.toNat ≠ 0 := by
  rcases id with ⟨val⟩
  simp [isValid, invalid, toNat, ← BitVec.toNat_inj]

/-- An identifier is read back from its text. -/
theorem ofHex_text (id : TraceId) : ofHex id.text = .ok id := by
  have hLt : id.toNat < Nat.pow 16 32 := id.val.isLt
  rw [ofHex, text, hexNumber_fixed (by decide), Nat.mod_eq_of_lt hLt]
  simp [Except.map]

end TraceId

/-- The identifier of a span. -/
structure SpanId where
  val : BitVec 64
  deriving DecidableEq

namespace SpanId

/-- The identifier that names no span. -/
def invalid : SpanId := ⟨0⟩

/-- Whether an identifier names a span. -/
def isValid (id : SpanId) : Bool := id ≠ invalid

/-- The identifier with a number, modulo its width. -/
def ofNat (n : Nat) : SpanId := ⟨BitVec.ofNat 64 n⟩

/-- The number of an identifier. -/
def toNat (id : SpanId) : Nat := id.val.toNat

/-- The text of an identifier: 16 digits. -/
def text (id : SpanId) : String := String.ofList (Text.Hex.fixed 16 id.toNat)

/-- The numeral of an identifier without leading zeros. -/
def lowerHex (id : SpanId) : String := String.ofList (Text.Hex.minimal id.toNat)

/-- Reads an identifier from its text. -/
def ofHex (text : String) : Except IdError SpanId := (hexNumber 16 text).map ofNat

/-- The eight bytes of an identifier. -/
def toBytes (id : SpanId) : List UInt8 := bigEndian 8 id.toNat

/-- The identifier that bytes spell. -/
def ofBytes (bytes : List UInt8) : SpanId := ofNat (ofBigEndian bytes)

@[simp] theorem ofNat_toNat (id : SpanId) : ofNat id.toNat = id := by
  simp [ofNat, toNat]

theorem toNat_ofNat {n : Nat} (h : n < Nat.pow 2 64) : (ofNat n).toNat = n := by
  rw [toNat, ofNat, BitVec.toNat_ofNat, Nat.mod_eq_of_lt h]

theorem isValid_iff (id : SpanId) : id.isValid = true ↔ id.toNat ≠ 0 := by
  rcases id with ⟨val⟩
  simp [isValid, invalid, toNat, ← BitVec.toNat_inj]

/-- An identifier is read back from its text. -/
theorem ofHex_text (id : SpanId) : ofHex id.text = .ok id := by
  have hLt : id.toNat < Nat.pow 16 16 := id.val.isLt
  rw [ofHex, text, hexNumber_fixed (by decide), Nat.mod_eq_of_lt hLt]
  simp [Except.map]

end SpanId

end SpanFlow
