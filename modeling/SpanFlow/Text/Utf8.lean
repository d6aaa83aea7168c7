/-!
# UTF-8

Characters as bytes and back. `decode?` refuses what is not UTF-8; `decodeLossy` puts the
replacement character U+FFFD in the place of each maximal piece that cannot be decoded.

## Main results

* `decode?_encode`, `decode?_eq_some_iff`: what was encoded decodes to itself, and nothing else is
  decoded.
-/

namespace SpanFlow.Text.Utf8

/-- The number of bytes that a text takes. -/
def byteLength (cs : List Char) : Nat := cs.foldr (fun c size => c.utf8Size + size) 0

/-- The bytes of a text. -/
def encode (cs : List Char) : List UInt8 := cs.flatMap String.utf8EncodeChar

/-- The text of which these are the bytes, if there is one. -/
def decode? (bytes : List UInt8) : Option (List Char) :=
  bytes.toByteArray.utf8Decode?.map Array.toList

/-- What was encoded decodes to itself. -/
theorem decode?_encode (cs : List Char) : decode? (encode cs) = some cs := by
  have h : (encode cs).toByteArray = cs.utf8Encode := rfl
  rw [decode?, h, List.utf8Decode?_utf8Encode]
  simp

/-- Bytes are decoded only to the text that they encode. -/
theorem decode?_eq_some_iff {bytes : List UInt8} {cs : List Char} :
    decode? bytes = some cs ↔ encode cs = bytes := by
  constructor
  · intro h
    obtain ⟨chars, hChars, rfl⟩ := Option.map_eq_some_iff.1 h
    have hSome : bytes.toByteArray.utf8Decode?.isSome = true := by simp [hChars]
    have hBytes := ByteArray.utf8Encode_get_utf8Decode? (h := hSome)
    simp only [hChars, Option.get_some] at hBytes
    have hData := congrArg (fun b => b.data.toList) hBytes
    simpa [List.utf8Encode, encode] using hData
  · rintro rfl
    exact decode?_encode cs

/-! ## Decoding with replacements -/

/-- A character begun and not yet complete: the bits so far, the bytes still missing, and the
range that the next byte must lie in. -/
structure Partial where
  bits : Nat
  missing : Nat
  low : Nat
  high : Nat

/-- What a byte means where a character may begin. -/
inductive Lead where
  | whole (c : Char)
  | opens (p : Partial)
  | stray

/--
The first byte of a character. The second byte is narrowed after `E0`, `ED`, `F0` and `F4`, so that
overlong forms, surrogates and numbers above U+10FFFF never begin.
-/
def lead (b : UInt8) : Lead :=
  let n := b.toNat
  if n < 0x80 then .whole (Char.ofNat n)
  else if n < 0xC2 then .stray
  else if n < 0xE0 then .opens ⟨n - 0xC0, 1, 0x80, 0xBF⟩
  else if n < 0xF0 then
    .opens ⟨n - 0xE0, 2, if n = 0xE0 then 0xA0 else 0x80, if n = 0xED then 0x9F else 0xBF⟩
  else if n < 0xF5 then
    .opens ⟨n - 0xF0, 3, if n = 0xF0 then 0x90 else 0x80, if n = 0xF4 then 0x8F else 0xBF⟩
  else .stray

/-- The replacement character. -/
def replacement : Char := Char.ofNat 0xFFFD

/-- The characters that a leading byte completes at once, and the character it leaves begun. -/
def enter (b : UInt8) : List Char × Option Partial :=
  match lead b with
  | .whole c => ([c], none)
  | .opens p => ([], some p)
  | .stray => ([replacement], none)

/-- One byte after a character begun: it continues it, completes it, or breaks it off. -/
def advance (p : Partial) (b : UInt8) : List Char × Option Partial :=
  if p.low ≤ b.toNat ∧ b.toNat ≤ p.high then
    let bits := 64 * p.bits + (b.toNat - 0x80)
    if p.missing ≤ 1 then ([Char.ofNat bits], none)
    else ([], some ⟨bits, p.missing - 1, 0x80, 0xBF⟩)
  else
    let next := enter b
    (replacement :: next.1, next.2)

/-- Decodes on from a character that may be begun. -/
def decodeFrom : Option Partial → List UInt8 → List Char
  | none, [] => []
  | some _, [] => [replacement]
  | none, b :: rest => (enter b).1 ++ decodeFrom (enter b).2 rest
  | some p, b :: rest => (advance p b).1 ++ decodeFrom (advance p b).2 rest

/-- Decodes every byte string; what cannot be decoded becomes the replacement character. -/
def decodeLossy (bytes : List UInt8) : List Char := decodeFrom none bytes

end SpanFlow.Text.Utf8
