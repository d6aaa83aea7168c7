import SpanFlow.Proofs.TraceState.Acceptance
import SpanFlow.Proofs.TraceState.KeyForm

/-!
# Keys that the grammar generates

The grammar of trace states has simple keys, which begin with a letter, and keys of a tenant and its
system, both of which have a length of their own. Every simple key is accepted. Of the others those
are whose system has no more than thirteen characters; the grammar goes on to fourteen, a letter and
thirteen more. A key is refused wherever it is met, and a whole header with it.

## Main results

* `Generated`: the keys of the grammar.
* `exists_ofPairs_iff`: which pairs make a state.
* `generated_key_accepted`: which of the keys of the grammar are accepted, and by what.
* `generated_key_refused`: one that is not.
-/

namespace SpanFlow.TraceState

open Text

/-! ## The grammar -/

/-- A lower-case letter. -/
def isLetter (c : Char) : Bool := 'a' ≤ c && c ≤ 'z'

/-- A character that may follow the first one of a simple key, of a tenant and of a system. -/
def isPlain (c : Char) : Bool := isAlnum c || c == '_' || c == '-' || c == '*' || c == '/'

/-- The keys of the grammar: simple ones, and those of a tenant and its system. -/
inductive Generated : List Char → Prop
  | simple {c : Char} {rest : List Char} (first : isLetter c = true)
    (plain : ∀ x ∈ rest, isPlain x = true) (length_le : rest.length ≤ 255) : Generated (c :: rest)
  | multiTenant {c d : Char} {tenant system : List Char} (tenant_first : isAlnum c = true)
    (tenant_plain : ∀ x ∈ tenant, isPlain x = true) (tenant_length_le : tenant.length ≤ 240)
    (system_first : isLetter d = true) (system_plain : ∀ x ∈ system, isPlain x = true)
    (system_length_le : system.length ≤ 13) : Generated (c :: tenant ++ '@' :: d :: system)

/-- No more than thirteen characters stand behind a sign. -/
def ShortSystem (key : List Char) : Prop :=
  ∀ tenant system, key = tenant ++ '@' :: system → system.length ≤ 13

theorem isAlnum_of_isLetter {c : Char} (h : isLetter c = true) : isAlnum c = true := by
  rw [isAlnum, ← isLetter, h, Bool.true_or]

theorem isPlain_of_isAlnum {c : Char} (h : isAlnum c = true) : isPlain c = true := by
  simp [isPlain, h]

theorem isKeyChar_of_isPlain {c : Char} (h : isPlain c = true) : isKeyChar c = true := by
  rw [isKeyChar, ← isPlain, h, Bool.true_or]

theorem ne_sign_of_isPlain {c : Char} (h : isPlain c = true) : c ≠ '@' := by
  rintro rfl
  revert h
  decide

/-! ## What fits -/

theorem fits_append {size i : Nat} {before after : List Char}
    (hPlain : ∀ c ∈ before, isPlain c = true) :
    Fits size i (before ++ after) ↔ Fits size (i + before.length) after := by
  induction before generalizing i with
  | nil => rfl
  | cons c rest ih =>
    obtain ⟨hHead, hTail⟩ := List.forall_mem_cons.1 hPlain
    rw [List.cons_append, fits_cons (ne_sign_of_isPlain hHead), ih hTail, List.length_cons,
      Nat.add_right_comm, Nat.add_assoc]
    simp [isKeyChar_of_isPlain hHead]

theorem byteLength_of_isKeyChar {cs : List Char} (h : ∀ c ∈ cs, isKeyChar c = true) :
    Utf8.byteLength cs = cs.length := by
  have hAscii : ∀ c ∈ cs, c.toNat ≤ 127 := fun c hc => by
    have hCode := toNat_of_isKeyChar (h c hc)
    omega
  rw [← Utf8.length_encode, Utf8.encode_of_ascii hAscii, List.length_map]

theorem Fits.byteLength_eq {size i : Nat} {cs : List Char} (h : Fits size i cs) :
    Utf8.byteLength cs = cs.length := byteLength_of_isKeyChar h.permitted

theorem shortSystem_of_validKey {key : String} (h : validKey key = true) :
    ShortSystem key.toList := by
  intro tenant system hSplit
  obtain ⟨-, -, -, hFits⟩ := validKey_iff_fits.1 h
  have hSize := (hFits.system tenant system hSplit).1
  rw [hFits.byteLength_eq, hSplit, List.length_append, List.length_cons] at hSize
  omega

theorem validKey_of_fits {key : String} {c : Char} {rest : List Char}
    (hKey : key.toList = c :: rest)
    (hFirst : isAlnum c = true) (hLength : rest.length ≤ 255)
    (hFits : Fits (c :: rest).length 0 (c :: rest)) : validKey key = true := by
  have hSize := hFits.byteLength_eq
  rw [validKey_iff_fits, hKey, hSize]
  exact ⟨Nat.succ_pos _, Nat.succ_le_succ hLength, by simpa using hFirst, hFits⟩

/-- The keys of the grammar are accepted as far as their systems are short. -/
theorem Generated.validKey_iff {key : String} (h : Generated key.toList) :
    validKey key = true ↔ ShortSystem key.toList := by
  refine ⟨shortSystem_of_validKey, fun hShort => ?_⟩
  generalize hKey : key.toList = cs at h hShort
  cases h with
  | @simple c rest hFirst hPlain hLength =>
    have hAlnum := isAlnum_of_isLetter hFirst
    have hAll : ∀ x ∈ c :: rest, isPlain x = true :=
      List.forall_mem_cons.2 ⟨isPlain_of_isAlnum hAlnum, hPlain⟩
    have hFits : Fits (c :: rest).length 0 ((c :: rest) ++ []) :=
      (fits_append hAll).2 (fits_nil _ _)
    rw [List.append_nil] at hFits
    exact validKey_of_fits hKey hAlnum hLength hFits
  | @multiTenant c d tenant system hTenant hTenantPlain hTenantLength hSystem hSystemPlain _ =>
    have hSystemAlnum := isAlnum_of_isLetter hSystem
    have hBefore : ∀ x ∈ c :: tenant, isPlain x = true :=
      List.forall_mem_cons.2 ⟨isPlain_of_isAlnum hTenant, hTenantPlain⟩
    have hBehind : ∀ x ∈ d :: system, isPlain x = true :=
      List.forall_mem_cons.2 ⟨isPlain_of_isAlnum hSystemAlnum, hSystemPlain⟩
    have hSystemShort : (d :: system).length ≤ 13 := hShort (c :: tenant) (d :: system) rfl
    have hFits : Fits (c :: tenant ++ '@' :: d :: system).length 0
        (c :: tenant ++ '@' :: d :: system) := by
      rw [fits_append hBefore, fits_cons_sign]
      refine ⟨?_, fun x hx => ?_, by simpa using hSystemAlnum⟩
      · simp only [List.length_append, List.length_cons] at hSystemShort ⊢
        omega
      · exact ⟨isKeyChar_of_isPlain (hBehind x hx), ne_sign_of_isPlain (hBehind x hx)⟩
    have hLength : (tenant ++ '@' :: d :: system).length ≤ 255 := by
      simp only [List.length_append, List.length_cons] at hSystemShort ⊢
      omega
    exact validKey_of_fits hKey hTenant hLength hFits

/-! ## Where keys are met -/

theorem exists_insert_iff (ts : TraceState) (key value : String) :
    (∃ made, ts.insert key value = .ok made) ↔
      validKey key = true ∧ validValue value = true := by
  rw [← Bool.and_eq_true, ← isValid.eq_1 (key, value), insert, check_eq]
  split_ifs with hValid <;> simp [Except.map, hValid]

theorem exists_erase_iff (ts : TraceState) (key : String) :
    (∃ made, ts.erase key = .ok made) ↔ validKey key = true := by
  rw [erase]
  split_ifs with hValid <;> simp [hValid]

/-- Pairs make a state just if each of them is valid. -/
theorem exists_ofPairs_iff (pairs : List (String × String)) :
    (∃ made, ofPairs pairs = .ok made) ↔ ∀ p ∈ pairs, isValid p = true := by
  rw [ofPairs_eq]
  cases hFind : pairs.find? fun p => !isValid p with
  | none => simpa using hFind
  | some p =>
    have hNot : ¬isValid p = true := by simpa using List.find?_some hFind
    exact ⟨fun ⟨_, hOk⟩ => (nomatch hOk),
      fun hAll => absurd (hAll p (List.mem_of_find?_eq_some hFind)) hNot⟩

theorem forall_mem_append_cons_iff {before after : List (String × String)} {p : String × String}
    {P : String × String → Prop} :
    (∀ q ∈ before ++ p :: after, P q) ↔ P p ∧ ∀ q ∈ before ++ after, P q := by
  simp only [List.forall_mem_append, List.forall_mem_cons]
  tauto

/-- **Which keys of the grammar are accepted.** A key that the grammar generates is valid just if
no more than thirteen characters stand behind a sign in it. It is then no obstacle to anything: it
can be put in with every valid value and taken out, and pairs and headers in which it stands are
accepted just if the other keys and the values are valid. If it has fourteen it cannot be put in or
taken out, and no pairs and no header are accepted in which it stands. -/
theorem generated_key_accepted {key : String} (h : Generated key.toList) :
    (validKey key = true ↔ ShortSystem key.toList) ∧
    (∀ ts value, (∃ made, insert ts key value = .ok made) ↔
      ShortSystem key.toList ∧ validValue value = true) ∧
    (∀ ts, (∃ made, erase ts key = .ok made) ↔ ShortSystem key.toList) ∧
    (∀ before value after,
      (∃ made, ofPairs (before ++ (key, value) :: after) = .ok made) ↔
        (ShortSystem key.toList ∧ validValue value = true) ∧
          ∀ p ∈ before ++ after, validKey p.1 = true ∧ validValue p.2 = true) ∧
    ∀ text before value after,
      List.Forall₂ CutsTo (members text.toList) (before ++ (key, value) :: after) →
      ((∃ made, parse text = .ok made) ↔
        (ShortSystem key.toList ∧ Utf8.byteLength value.toList ≤ 256 ∧ '=' ∉ value.toList) ∧
          ∀ p ∈ before ++ after, Admissible p) := by
  have hKey := h.validKey_iff
  refine ⟨hKey, fun ts value => ?_, fun ts => ?_, fun before value after => ?_,
    fun text before value after hCuts => ?_⟩
  · rw [exists_insert_iff, hKey]
  · rw [exists_erase_iff, hKey]
  · simp only [exists_ofPairs_iff, forall_mem_append_cons_iff, isValid, Bool.and_eq_true, hKey]
  · rw [exists_parse_iff hCuts, forall_mem_append_cons_iff, ← hKey]
    rfl

/-- A tenant may begin with a digit. Its system has thirteen characters and a header with this key
is read, and with one character more it is refused. -/
theorem generated_key_accepted_digit :
    (∃ made, parse "0@abcdefghijklm=1,b=2" = .ok made) ∧
      ¬∃ made, parse "0@abcdefghijklmn=1,b=2" = .ok made := by
  have hShort : Generated "0@abcdefghijklm".toList :=
    @Generated.multiTenant '0' 'a' [] "bcdefghijklm".toList rfl (List.forall_mem_nil _) (by decide)
      rfl (List.all_eq_true.1 rfl) (by decide)
  have hLong : Generated "0@abcdefghijklmn".toList :=
    @Generated.multiTenant '0' 'a' [] "bcdefghijklmn".toList rfl (List.forall_mem_nil _) (by decide)
      rfl (List.all_eq_true.1 rfl) (by decide)
  obtain ⟨hValid, -, -, -, hParse⟩ := generated_key_accepted hShort
  obtain ⟨-, -, -, -, hRefuse⟩ := generated_key_accepted hLong
  constructor
  · refine (hParse _ [] "1" [("b", "2")] ?_).2
      ⟨⟨hValid.1 (by decide +kernel), by decide⟩, by decide⟩
    exact .cons ⟨rfl, by decide⟩ (.cons ⟨rfl, by decide⟩ .nil)
  · intro hMade
    have hCuts : List.Forall₂ CutsTo (members "0@abcdefghijklmn=1,b=2".toList)
        ([] ++ ("0@abcdefghijklmn", "1") :: [("b", "2")]) :=
      .cons ⟨rfl, by decide⟩ (.cons ⟨rfl, by decide⟩ .nil)
    exact absurd (((hRefuse _ _ _ _ hCuts).1 hMade).1.1 ['0'] _ rfl) (by decide)

/-- A key with the longest system that the grammar generates is refused. -/
theorem generated_key_refused : ¬∀ key : String, Generated key.toList → validKey key = true := by
  intro hAll
  have hGenerated : Generated "a@abcdefghijklmn".toList :=
    @Generated.multiTenant 'a' 'a' [] "bcdefghijklmn".toList rfl (List.forall_mem_nil _) (by decide)
      rfl (List.all_eq_true.1 rfl) (by decide)
  exact absurd (hAll _ hGenerated) (by decide +kernel)

end SpanFlow.TraceState
