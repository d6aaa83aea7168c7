import SpanFlow.Proofs.Text.Bytes
import SpanFlow.Proofs.Text.Numerals
import SpanFlow.Recording.Limits

/-!
# Where limits come from

Limits are the standard ones, are built from others by settings, or are read from variables of the
environment. Two checks keep zero out: building refuses it, and so does reading a variable, so that
what was read is never refused by the building that follows.

What a variable must hold is said by `Spells`, without the functions that read it; what a row of
settings makes of a field is said by `settled`, from the last setting of that field alone.

## Main results

* `positive?_eq_some_iff`: which texts are read as a limit.
* `get_applyAll`: limits after settings.
* `build_eq_ok_iff`, `build_eq_error_iff`: which limits are refused, and for which field.
* `readFields_cases`: what reading the variables of some fields gives.
* `limits_of_sources`: environment, settings and the limits that they lead to.
-/

namespace SpanFlow.Limits

open Text

/-! ## Fields -/

/-- A field that has a property, while none before it has. -/
def Field.First (p : Field → Prop) (f : Field) : Prop :=
  ∃ before after, Field.all = before ++ f :: after ∧ p f ∧ ∀ g ∈ before, ¬p g

theorem Field.mem_all (f : Field) : f ∈ Field.all := by cases f <;> decide

/-- Limits are known from their fields. -/
theorem ext_get {l m : Limits} (h : ∀ f, l.get f = m.get f) : l = m := by
  obtain ⟨⟩ := l
  obtain ⟨⟩ := m
  have hAttributes := h .attributes
  have hEvents := h .events
  have hLinks := h .links
  have hEventAttributes := h .eventAttributes
  have hLinkAttributes := h .linkAttributes
  have hValueLength := h .valueLength
  simp_all [get]

theorem get_set (l : Limits) (n : Nat) (f g : Field) :
    (l.set n f).get g = if f = g then some n else l.get g := by
  cases f <;> cases g <;> rfl

theorem get_unlimited (l : Limits) (g : Field) :
    l.unlimited.get g = if g = .valueLength then none else l.get g := by
  cases g <;> rfl

theorem get_standard_ne_zero (f : Field) : standard.get f ≠ some 0 := by cases f <;> decide

/-! ## Building -/

/-- The value to which a setting sets a field, if it sets that field. -/
def Setting.on? (f : Field) : Setting → Option (Option Nat)
  | .field g n => if g = f then some (some n) else none
  | .unlimited => if f = .valueLength then some none else none

/-- The value that the last setting of a field gives it, or the one from before. -/
def settled (l : Limits) (settings : List Setting) (f : Field) : Option Nat :=
  (settings.filterMap (Setting.on? f)).getLast?.getD (l.get f)

theorem get_apply (l : Limits) (s : Setting) (f : Field) :
    (l.apply s).get f = (s.on? f).getD (l.get f) := by
  cases s with
  | field g n =>
    rw [apply, get_set, Setting.on?]
    split <;> rfl
  | unlimited =>
    rw [apply, get_unlimited, Setting.on?]
    split <;> rfl

/-- After settings a field has the value of the last one that sets it. -/
theorem get_applyAll (l : Limits) (settings : List Setting) (f : Field) :
    (l.applyAll settings).get f = settled l settings f := by
  induction settings using List.reverseRecOn with
  | nil => rfl
  | append_singleton settings s ih =>
    have hLast : l.applyAll (settings ++ [s]) = (l.applyAll settings).apply s :=
      List.foldl_concat ..
    rw [hLast, get_apply, ih, settled, settled, List.filterMap_append]
    cases hSetting : s.on? f <;> simp [hSetting]

/-- Limits pass the check unchanged, and do so just if none is zero. -/
theorem build_eq_ok_iff {l built : Limits} :
    l.build = .ok built ↔ built = l ∧ ∀ f, l.get f ≠ some 0 := by
  have hNone : (Field.all.find? fun f => l.get f == some 0) = none ↔ ∀ f, l.get f ≠ some 0 := by
    simp [List.find?_eq_none, Field.mem_all]
  unfold build
  rw [← hNone]
  split
  · rename_i hFound
    simp [hFound]
  · rename_i hFound
    simp [hFound, eq_comm]

/-- Limits are refused for the first field that is zero. -/
theorem build_eq_error_iff {l : Limits} {e : Error} :
    l.build = .error e ↔ ∃ f, Field.First (fun g => l.get g = some 0) f ∧ e = .zero f := by
  have hSome : ∀ f, (Field.all.find? fun f => l.get f == some 0) = some f ↔
      Field.First (fun g => l.get g = some 0) f := by
    intro f
    rw [List.find?_eq_some_iff_append]
    simp only [beq_iff_eq, Bool.not_eq_true', beq_eq_false_iff_ne, ne_eq, Field.First]
    tauto
  simp only [← hSome]
  unfold build
  split
  · rename_i g hFound
    simp [hFound, eq_comm]
  · rename_i hFound
    simp [hFound]

/-! ## Reading a variable -/

/-- A text that spells a number from 1 to `2 ^ 32 - 1` in decimal digits, with or without a plus
sign before them. -/
def Spells (text : List Char) (n : Nat) : Prop :=
  ∃ sign digits, text = sign ++ digits ∧ (sign = [] ∨ sign = ['+']) ∧ digits ≠ [] ∧
    (∀ c ∈ digits, '0' ≤ c ∧ c ≤ '9') ∧ decimalValue digits = n ∧ 1 ≤ n ∧ n ≤ 2 ^ 32 - 1

/-- What stands behind a plus sign, or all of a text, are its digits. -/
theorem unsigned_eq_of_digits {sign digits : List Char} (hSign : sign = [] ∨ sign = ['+'])
    (hNe : digits ≠ []) (hDigits : ∀ c ∈ digits, '0' ≤ c ∧ c ≤ '9') :
    unsigned (sign ++ digits) = digits := by
  rcases hSign with rfl | rfl
  · obtain ⟨c, rest, rfl⟩ := List.exists_cons_of_ne_nil hNe
    refine unsigned_cons ?_ rest
    rintro rfl
    exact absurd (hDigits '+' List.mem_cons_self) (by decide)
  · rfl

theorem exists_sign (text : List Char) :
    ∃ sign, text = sign ++ unsigned text ∧ (sign = [] ∨ sign = ['+']) := by
  unfold unsigned
  split
  · exact ⟨['+'], rfl, .inr rfl⟩
  · exact ⟨[], rfl, .inl rfl⟩

/-- The texts that are read as a limit are the numerals of positive numbers that fit 32 bits. -/
theorem positive?_eq_some_iff {text : List Char} {n : Nat} :
    positive? text = some n ↔ Spells text n := by
  have hRead : positive? text = some n ↔
      decimal? (unsigned text) = some n ∧ 1 ≤ n ∧ n ≤ 2 ^ 32 - 1 := by
    unfold positive?
    cases decimal? (unsigned text) with
    | none => simp
    | some m =>
      simp only [Option.ite_none_right_eq_some, Option.some.injEq]
      constructor
      · rintro ⟨⟨hPos, hLt⟩, rfl⟩
        exact ⟨rfl, hPos, Nat.le_sub_one_of_lt hLt⟩
      · rintro ⟨rfl, hPos, hLe⟩
        exact ⟨⟨hPos, Nat.lt_of_le_sub_one (by decide) hLe⟩, rfl⟩
  rw [hRead, decimal?_eq_some_iff]
  constructor
  · rintro ⟨⟨hNe, hDigits, hValue⟩, hRange⟩
    obtain ⟨sign, hText, hSign⟩ := exists_sign text
    exact ⟨sign, _, hText, hSign, hNe, hDigits, hValue, hRange⟩
  · rintro ⟨sign, digits, rfl, hSign, hNe, hDigits, hValue, hRange⟩
    rw [unsigned_eq_of_digits hSign hNe hDigits]
    exact ⟨⟨hNe, hDigits, hValue⟩, hRange⟩

/-- The variable of a field is not set. -/
def Unset (env : Environment) (f : Field) : Prop := Assoc.get? env f.variableName = none

/-- The variable of a field is a text that, trimmed, spells a limit. -/
def Names (env : Environment) (f : Field) (n : Nat) : Prop :=
  ∃ text, Assoc.get? env f.variableName = some (Utf8.encode text) ∧ Spells (trim text) n

/-- The variable of a field holds these bytes, and they are no text that spells a limit. -/
def Offends (env : Environment) (f : Field) (bytes : List UInt8) : Prop :=
  Assoc.get? env f.variableName = some bytes ∧ ∀ n, ¬Names env f n

/-- This is the value of a field where the environment speaks before the limits that are there. -/
def Given (env : Environment) (l : Limits) (f : Field) (value : Option Nat) : Prop :=
  (Unset env f ∧ value = l.get f) ∨ ∃ n, Names env f n ∧ value = some n

/-- Why a variable that holds these bytes is refused. -/
def refusal (f : Field) (bytes : List UInt8) : Error :=
  .variable f (String.ofList (Utf8.decodeLossy bytes))

theorem ofVariable_eq_ok_iff {f : Field} {bytes : List UInt8} {n : Nat} :
    ofVariable f bytes = .ok n ↔ ∃ text, bytes = Utf8.encode text ∧ Spells (trim text) n := by
  simp only [← positive?_eq_some_iff, @eq_comm _ bytes, ← Utf8.decode?_eq_some_iff]
  unfold ofVariable
  cases Utf8.decode? bytes with
  | none => simp
  | some text =>
    cases hLimit : positive? (trim text) <;> simp [hLimit]

theorem ofVariable_eq_error {f : Field} {bytes : List UInt8} {e : Error}
    (h : ofVariable f bytes = .error e) : e = refusal f bytes := by
  unfold ofVariable at h
  split at h
  · exact (Except.error.inj h).symm
  · rename_i text hText
    obtain rfl := Utf8.decode?_eq_some_iff.1 hText
    split at h
    · rw [refusal, Utf8.decodeLossy_encode]
      exact (Except.error.inj h).symm
    · cases h

theorem names_unique {env : Environment} {f : Field} {n m : Nat} (hn : Names env f n)
    (hm : Names env f m) : n = m := by
  obtain ⟨text, hText, hSpells⟩ := hn
  obtain ⟨other, hOther, hOtherSpells⟩ := hm
  have hn : ofVariable f (Utf8.encode text) = .ok n := ofVariable_eq_ok_iff.2 ⟨text, rfl, hSpells⟩
  have hm : ofVariable f (Utf8.encode other) = .ok m :=
    ofVariable_eq_ok_iff.2 ⟨other, rfl, hOtherSpells⟩
  rw [Option.some.inj (hText.symm.trans hOther), hm] at hn
  exact (Except.ok.inj hn).symm

/-- Reading the variable of a field gives limits with the value it names, or refuses its bytes. -/
theorem readField_cases (env : Environment) (l : Limits) (f : Field) :
    (∃ read, readField env l f = .ok read ∧ (∀ g, g ≠ f → read.get g = l.get g) ∧
        Given env l f (read.get f)) ∨
      ∃ bytes, readField env l f = .error (refusal f bytes) ∧ Offends env f bytes := by
  unfold readField
  cases hBytes : Assoc.get? env f.variableName with
  | none => exact .inl ⟨l, rfl, fun _ _ => rfl, .inl ⟨hBytes, rfl⟩⟩
  | some bytes =>
    dsimp only
    cases hRead : ofVariable f bytes with
    | ok n =>
      obtain ⟨text, rfl, hSpells⟩ := ofVariable_eq_ok_iff.1 hRead
      refine .inl ⟨l.set n f, rfl, fun g hg => ?_, .inr ⟨n, ⟨text, hBytes, hSpells⟩, ?_⟩⟩
      · rw [get_set, if_neg (Ne.symm hg)]
      · rw [get_set, if_pos rfl]
    | error e =>
      refine .inr ⟨bytes, by rw [ofVariable_eq_error hRead]; rfl, hBytes, fun n hNames => ?_⟩
      obtain ⟨text, hText, hSpells⟩ := hNames
      have hOk : ofVariable f bytes = .ok n :=
        ofVariable_eq_ok_iff.2 ⟨text, Option.some.inj (hBytes.symm.trans hText), hSpells⟩
      rw [hRead] at hOk
      cases hOk

/-- What reading the variables of some fields in turn gives: each has its value, or the first one
that offends is the reason. -/
theorem readFields_cases (env : Environment) {fields : List Field} (hNodup : fields.Nodup)
    (l : Limits) :
    (∃ read, fields.foldlM (readField env) l = .ok read ∧
        (∀ g, g ∉ fields → read.get g = l.get g) ∧ ∀ f ∈ fields, Given env l f (read.get f)) ∨
      ∃ before f after bytes, fields = before ++ f :: after ∧
        fields.foldlM (readField env) l = .error (refusal f bytes) ∧ Offends env f bytes ∧
        ∀ g ∈ before, ¬∃ bytes, Offends env g bytes := by
  induction fields generalizing l with
  | nil => exact .inl ⟨l, rfl, fun _ _ => rfl, by simp⟩
  | cons f rest ih =>
    obtain ⟨hFresh, hRest⟩ := List.nodup_cons.1 hNodup
    rw [List.foldlM_cons]
    rcases readField_cases env l f with ⟨next, hNext, hKept, hGiven⟩ | ⟨bytes, hError, hOffends⟩
    · have hSame : ∀ g ∈ rest, next.get g = l.get g := fun g hg =>
        hKept g fun h => hFresh (h ▸ hg)
      have hFine : ¬∃ bytes, Offends env f bytes := by
        rintro ⟨bytes, hBytes, hNone⟩
        rcases hGiven with ⟨hUnset, -⟩ | ⟨n, hNames, -⟩
        · exact Option.some_ne_none _ (hBytes.symm.trans hUnset)
        · exact hNone n hNames
      rw [hNext]
      rcases ih hRest next with ⟨read, hRead, hOthers, hAll⟩ |
        ⟨before, g, after, bytes, rfl, hError, hOffends, hFirst⟩
      · refine .inl ⟨read, hRead, fun g hg => ?_, List.forall_mem_cons.2 ⟨?_, fun g hg => ?_⟩⟩
        · obtain ⟨hNe, hNotMem⟩ := not_or.1 (mt List.mem_cons.2 hg)
          rw [hOthers g hNotMem, hKept g hNe]
        · rwa [hOthers f hFresh]
        · have hRestGiven := hAll g hg
          rwa [Given, hSame g hg] at hRestGiven
      · exact .inr ⟨f :: before, g, after, bytes, rfl, hError, hOffends,
          List.forall_mem_cons.2 ⟨hFine, hFirst⟩⟩
    · rw [hError]
      exact .inr ⟨[], f, rest, bytes, rfl, rfl, hOffends, by simp⟩

theorem Given.ne_zero {env : Environment} {l : Limits} {f : Field} {value : Option Nat}
    (h : Given env l f value) (hFine : l.get f ≠ some 0) : value ≠ some 0 := by
  rcases h with ⟨-, rfl⟩ | ⟨n, ⟨text, -, hSpells⟩, rfl⟩
  · exact hFine
  · obtain ⟨sign, digits, -, -, -, -, -, hPos, -⟩ := hSpells
    simpa using Nat.ne_of_gt hPos

/-- **What the environment leads to.** The check at the end of building refuses nothing that was
read. -/
theorem fromEnvironment_cases (env : Environment) :
    (∃ l, fromEnvironment env = .ok l ∧ ∀ f, Given env standard f (l.get f)) ∨
      ∃ f bytes, fromEnvironment env = .error (refusal f bytes) ∧ Offends env f bytes ∧
        Field.First (fun g => ∃ bytes, Offends env g bytes) f := by
  unfold fromEnvironment
  rcases readFields_cases env (by decide : Field.all.Nodup) standard with
    ⟨l, hRead, -, hGiven⟩ | ⟨before, f, after, bytes, hSplit, hError, hOffends, hFirst⟩
  · have hAll : ∀ f, Given env standard f (l.get f) := fun f => hGiven f f.mem_all
    rw [hRead]
    exact .inl ⟨l, build_eq_ok_iff.2 ⟨rfl, fun f => (hAll f).ne_zero (get_standard_ne_zero f)⟩,
      hAll⟩
  · rw [hError]
    exact .inr ⟨f, bytes, rfl, hOffends, before, after, hSplit, ⟨bytes, hOffends⟩, hFirst⟩

theorem given_of_fromEnvironment {env : Environment} {l : Limits}
    (h : fromEnvironment env = .ok l) (f : Field) : Given env standard f (l.get f) := by
  rcases fromEnvironment_cases env with ⟨read, hOk, hGiven⟩ | ⟨g, bytes, hError, -⟩
  · obtain rfl : read = l := Except.ok.inj (hOk.symm.trans h)
    exact hGiven f
  · rw [hError] at h
    cases h

theorem refusal_of_fromEnvironment {env : Environment} {e : Error}
    (h : fromEnvironment env = .error e) :
    ∃ f bytes, e = refusal f bytes ∧ Offends env f bytes ∧
      Field.First (fun g => ∃ bytes, Offends env g bytes) f := by
  rcases fromEnvironment_cases env with ⟨l, hOk, -⟩ | ⟨f, bytes, hError, hOffends, hFirst⟩
  · rw [hOk] at h
    cases h
  · exact ⟨f, bytes, (Except.error.inj (hError.symm.trans h)).symm, hOffends, hFirst⟩

theorem exists_fromEnvironment_iff (env : Environment) :
    (∃ l, fromEnvironment env = .ok l) ↔ ∀ f, Unset env f ∨ ∃ n, Names env f n := by
  constructor
  · rintro ⟨l, hRead⟩ f
    exact (given_of_fromEnvironment hRead f).imp And.left fun ⟨n, hNames, _⟩ => ⟨n, hNames⟩
  · intro h
    cases hRead : fromEnvironment env with
    | ok l => exact ⟨l, rfl⟩
    | error e =>
      obtain ⟨f, bytes, -, ⟨hBytes, hNone⟩, -⟩ := refusal_of_fromEnvironment hRead
      rcases h f with hUnset | ⟨n, hNames⟩
      · exact absurd (hBytes.symm.trans hUnset) (Option.some_ne_none _)
      · exact absurd hNames (hNone n)

theorem Given.of_unset {env : Environment} {l : Limits} {f : Field} {value : Option Nat}
    (h : Given env l f value) (hUnset : Unset env f) : value = l.get f := by
  rcases h with ⟨-, hValue⟩ | ⟨n, ⟨text, hText, -⟩, -⟩
  · exact hValue
  · exact absurd (hText.symm.trans hUnset) (Option.some_ne_none _)

theorem Given.of_names {env : Environment} {l : Limits} {f : Field} {value : Option Nat} {n : Nat}
    (h : Given env l f value) (hNames : Names env f n) : value = some n := by
  rcases h with ⟨hUnset, -⟩ | ⟨m, hOther, hValue⟩
  · obtain ⟨text, hText, -⟩ := hNames
    exact absurd (hText.symm.trans hUnset) (Option.some_ne_none _)
  · rw [hValue, names_unique hOther hNames]

/-! ## All sources -/

/-- Limits that can be had: the standard ones, those that are built by settings from others, and
those that are read. -/
inductive Obtainable : Limits → Prop where
  | standard : Obtainable .standard
  | built {l built : Limits} (settings : List Setting) (start : Obtainable l)
      (h : (l.applyAll settings).build = .ok built) : Obtainable built
  | read {env : Environment} {l : Limits} (h : fromEnvironment env = .ok l) : Obtainable l

theorem Obtainable.ne_zero {l : Limits} (h : Obtainable l) (f : Field) : l.get f ≠ some 0 := by
  induction h with
  | standard => exact get_standard_ne_zero f
  | built settings _ hBuilt _ =>
    obtain ⟨rfl, hFine⟩ := build_eq_ok_iff.1 hBuilt
    exact hFine f
  | read hRead => exact (given_of_fromEnvironment hRead f).ne_zero (get_standard_ne_zero f)

/-- **Limits from each source.** The environment gives limits just if each variable that is set is a
text that, trimmed, spells a number from 1 to `2 ^ 32 - 1`, and then each field has that number, or
is the standard one where its variable is not set. If it does not, the first variable that offends
is the reason, with what it holds. Settings make of each field what the last of them says, and what
they make is refused for the first field that is zero. So no limit that can be had is zero, and
building anew from limits that can be had gives the same. -/
theorem limits_of_sources :
    (∀ env : Environment,
      ((∃ l, fromEnvironment env = .ok l) ↔ ∀ f, Unset env f ∨ ∃ n, Names env f n) ∧
      (∀ l, fromEnvironment env = .ok l → ∀ f,
        (Unset env f → l.get f = standard.get f) ∧ ∀ n, Names env f n → l.get f = some n) ∧
      ∀ e, fromEnvironment env = .error e → ∃ f bytes,
        Field.First (fun g => ∃ bytes, Offends env g bytes) f ∧ Offends env f bytes ∧
        e = .variable f (String.ofList (Utf8.decodeLossy bytes)) ∧
        ∀ text, bytes = Utf8.encode text → e = .variable f (String.ofList text)) ∧
    (∀ (l : Limits) (settings : List Setting),
      (∀ built, (l.applyAll settings).build = .ok built ↔
        (∀ f, built.get f = settled l settings f) ∧ ∀ f, settled l settings f ≠ some 0) ∧
      ∀ e, (l.applyAll settings).build = .error e ↔
        ∃ f, Field.First (fun g => settled l settings g = some 0) f ∧ e = .zero f) ∧
    ∀ l, Obtainable l → (∀ f n, l.get f = some n → 1 ≤ n) ∧ (l.applyAll []).build = .ok l := by
  refine ⟨fun env => ⟨exists_fromEnvironment_iff env, fun l hRead f => ?_, fun e hRead => ?_⟩,
    fun l settings => ⟨fun built => ?_, fun e => ?_⟩, fun l h => ⟨fun f n hValue => ?_, ?_⟩⟩
  · have hGiven := given_of_fromEnvironment hRead f
    exact ⟨hGiven.of_unset, fun n => hGiven.of_names⟩
  · obtain ⟨f, bytes, rfl, hOffends, hFirst⟩ := refusal_of_fromEnvironment hRead
    refine ⟨f, bytes, hFirst, hOffends, rfl, ?_⟩
    rintro text rfl
    rw [refusal, Utf8.decodeLossy_encode]
  · simp only [build_eq_ok_iff, get_applyAll]
    refine and_congr_left fun _ => ⟨?_, fun hGet => ext_get fun f => ?_⟩
    · rintro rfl f
      exact get_applyAll l settings f
    · rw [hGet, get_applyAll]
  · simp only [build_eq_error_iff, get_applyAll]
  · have hNe := h.ne_zero f
    rw [hValue] at hNe
    exact Nat.one_le_iff_ne_zero.2 fun hZero => hNe (congrArg some hZero)
  · exact build_eq_ok_iff.2 ⟨rfl, h.ne_zero⟩

end SpanFlow.Limits
