import SpanFlow.Text.Utf8

/-!
# Keys and values of a trace state

Which texts may stand as a key and which as a value. A key is scanned once from left to right; what
matters about the characters already read is their number and where the sign `@` stood, which
parts a tenant from its system.

## Main results

* `acceptsFrom_tail`: a key that is accepted is accepted at every character.
-/

namespace SpanFlow.TraceState

/-- A lower-case letter or a digit. -/
def isAlnum (c : Char) : Bool := ('a' ≤ c && c ≤ 'z') || ('0' ≤ c && c ≤ '9')

/-- A character that may stand in a key. -/
def isKeyChar (c : Char) : Bool :=
  isAlnum c || c == '_' || c == '-' || c == '*' || c == '/' || c == '@'

/--
Whether the character with index `i` may stand in a key of `size` bytes. `tenant` is the index of
the sign `@`, if one was read. The first character and the one behind the sign must be a letter or
a digit, and a second sign is refused, as is one with more than thirteen characters behind it.
-/
def acceptsAt (size i : Nat) (tenant : Option Nat) (c : Char) : Bool :=
  isKeyChar c &&
    if i = 0 then isAlnum c
    else if c = '@' then tenant.isNone && size ≤ i + 14
    else
      match tenant with
      | some start => if i = start + 1 then isAlnum c else true
      | none => true

/-- Scans a key from the character with index `i` on. -/
def acceptsFrom (size i : Nat) (tenant : Option Nat) : List Char → Bool
  | [] => true
  | c :: rest =>
    acceptsAt size i tenant c &&
      acceptsFrom size (i + 1) (if c = '@' then some i else tenant) rest

/-- Whether a text may stand as a key. -/
def validKey (key : String) : Bool :=
  let cs := key.toList
  let size := Text.Utf8.byteLength cs
  0 < size && size ≤ 256 && acceptsFrom size 0 none cs

/-- Whether a text may stand as a value. -/
def validValue (value : String) : Bool :=
  let cs := value.toList
  Text.Utf8.byteLength cs ≤ 256 && cs.all fun c => c != ',' && c != '='

/-- A key that is accepted is accepted at its first character, and from the next one on. -/
theorem acceptsFrom_tail {size i : Nat} {tenant : Option Nat} {c : Char} {rest : List Char}
    (h : acceptsFrom size i tenant (c :: rest) = true) :
    acceptsAt size i tenant c = true ∧
      acceptsFrom size (i + 1) (if c = '@' then some i else tenant) rest = true := by
  simpa [acceptsFrom] using h

theorem isKeyChar_of_acceptsFrom {size i : Nat} {tenant : Option Nat} {cs : List Char}
    (h : acceptsFrom size i tenant cs = true) : ∀ c ∈ cs, isKeyChar c = true := by
  induction cs generalizing i tenant with
  | nil => simp
  | cons c rest ih =>
    obtain ⟨hHead, hTail⟩ := acceptsFrom_tail h
    intro x hx
    rcases List.mem_cons.1 hx with rfl | hx
    · exact (Bool.and_eq_true _ _ ▸ hHead : _ ∧ _).1
    · exact ih hTail x hx

end SpanFlow.TraceState
