import Mathlib.Data.List.Find
import Mathlib.Data.List.Forall2
import SpanFlow.Proofs.TraceState.Rereading

/-!
# Which headers are accepted

A header is gone through twice. First every member is cut at its first `=`, and a member that has
none ends the reading. Only then are the keys and values judged, in the order in which they stand.
So a member without `=` is what is wrong with a header even if the key or the value of an earlier
member is not valid.

All this is told from the members, trimmed and without the blank ones. `Spaced` says of the fields
between the commas that blanks have been put around some of them and blank fields between them; it
makes no difference to the members. As members have no comma, a value is only judged by its length
and by whether there is a second `=` in its member.

## Main results

* `mapM_pairOf_of_find?`, `mapM_pairOf_of_cuts`: what cutting the members comes to.
* `isValid_iff_admissible`: how the parts of a member are judged.
* `members_of_spaced`: white space and blank members do not count.
* `header_acceptance`: what a header is read as, told from its members.
-/

namespace SpanFlow.TraceState

open Text

/-! ## Cutting members -/

/-- A member cut at its first `=`. -/
structure CutsTo (member : List Char) (p : String × String) : Prop where
  text_eq : member = memberText p
  first : '=' ∉ p.1.toList

theorem pairOf_eq_ok_iff {member : List Char} {p : String × String} :
    pairOf member = .ok p ↔ CutsTo member p := by
  unfold pairOf
  cases hCut : cutAt '=' member with
  | none =>
    refine ⟨fun h => (nomatch h), fun h => ?_⟩
    rw [h.text_eq, cutAt_eq_none_iff] at hCut
    simp [memberText] at hCut
  | some parts =>
    obtain ⟨key, value⟩ := parts
    obtain ⟨hText, hFree⟩ := cutAt_eq_some hCut
    constructor
    · intro h
      cases h
      exact ⟨by simpa [memberText] using hText, by simpa using hFree⟩
    · intro h
      have hSame := cutAt_eq_some_iff.2 ⟨h.text_eq, h.first⟩
      rw [hCut, Option.some.injEq, Prod.mk.injEq] at hSame
      simp [hSame.1, hSame.2]

theorem pairOf_of_notMem {member : List Char} (h : '=' ∉ member) :
    pairOf member = .error (.member (String.ofList member)) := by
  rw [pairOf, cutAt_eq_none_iff.2 h]

theorem exists_pairOf {member : List Char} (h : '=' ∈ member) : ∃ p, pairOf member = .ok p := by
  unfold pairOf
  cases hCut : cutAt '=' member with
  | none => exact absurd h (cutAt_eq_none_iff.1 hCut)
  | some parts => exact ⟨_, rfl⟩

/-- The first member without `=` is the error, whatever the others are. -/
theorem mapM_pairOf_of_find? {ms : List (List Char)} {m : List Char}
    (h : ms.find? (fun m => '=' ∉ m) = some m) :
    ms.mapM pairOf = .error (.member (String.ofList m)) := by
  induction ms with
  | nil => cases h
  | cons first rest ih =>
    rw [mapM_except_cons]
    by_cases hFirst : '=' ∈ first
    · obtain ⟨p, hp⟩ := exists_pairOf hFirst
      rw [List.find?_cons_of_neg (by simpa using hFirst)] at h
      rw [hp, ih h]
      rfl
    · rw [List.find?_cons_of_pos (by simpa using hFirst)] at h
      cases h
      rw [pairOf_of_notMem hFirst]

theorem exists_cuts {ms : List (List Char)} (h : ∀ m ∈ ms, '=' ∈ m) :
    ∃ pairs, List.Forall₂ CutsTo ms pairs := by
  induction ms with
  | nil => exact ⟨[], .nil⟩
  | cons first rest ih =>
    obtain ⟨p, hp⟩ := exists_pairOf (h first List.mem_cons_self)
    obtain ⟨pairs, hPairs⟩ := ih fun m hm => h m (List.mem_cons_of_mem first hm)
    exact ⟨p :: pairs, .cons (pairOf_eq_ok_iff.1 hp) hPairs⟩

/-- Members that can all be cut give their pairs in order. -/
theorem mapM_pairOf_of_cuts {ms : List (List Char)} {pairs : List (String × String)}
    (h : List.Forall₂ CutsTo ms pairs) : ms.mapM pairOf = .ok pairs := by
  induction h with
  | nil => rfl
  | cons hFirst _ ih =>
    rw [mapM_except_cons, pairOf_eq_ok_iff.2 hFirst, ih]
    rfl

/-! ## Judging keys and values -/

/-- A pair whose key is valid and whose value is short enough and has no `=`. -/
def Admissible (p : String × String) : Prop :=
  validKey p.1 = true ∧ Utf8.byteLength p.2.toList ≤ 256 ∧ '=' ∉ p.2.toList

instance : DecidablePred Admissible := fun _ => inferInstanceAs (Decidable (_ ∧ _ ∧ _))

/-- Members are pieces between commas. -/
theorem comma_notMem_of_mem_members {text m : List Char} (h : m ∈ members text) : ',' ∉ m := by
  obtain ⟨field, hField, rfl⟩ := List.mem_map.1 (List.mem_filter.1 h).1
  have hFree := (splitOn_eq_iff.1 (Eq.refl (splitOn ',' text))).2.2 field hField
  exact fun hMem => hFree (trim_subset field hMem)

/-- A value that was cut out of a member has no comma. -/
theorem isValid_iff_admissible {member : List Char} {p : String × String} (h : CutsTo member p)
    (hFree : ',' ∉ member) : isValid p = true ↔ Admissible p := by
  have hValue : ',' ∉ p.2.toList := fun hMem => hFree <| by
    rw [h.text_eq]
    exact List.mem_append_right _ (List.mem_cons_of_mem '=' hMem)
  rw [isValid, Bool.and_eq_true, validValue_iff, Admissible]
  simp only [hValue, not_false_eq_true, true_and]

/-! ## White space and blank members -/

/-- Fields to which blank ones may have been added, and blanks around the others. -/
inductive Spaced : List (List Char) → List (List Char) → Prop
  | nil : Spaced [] []
  | blank {fields more : List (List Char)} {added : List Char} :
    (∀ c ∈ added, isBlank c = true) → Spaced fields more → Spaced fields (added :: more)
  | field {fields more : List (List Char)} {before after : List Char} (field : List Char) :
    (∀ c ∈ before, isBlank c = true) → (∀ c ∈ after, isBlank c = true) → Spaced fields more →
    Spaced (field :: fields) ((before ++ field ++ after) :: more)

theorem spaced_append_nil (fields : List (List Char)) : Spaced fields (fields ++ [[]]) := by
  have hNone : ∀ c ∈ ([] : List Char), isBlank c = true := by simp
  induction fields with
  | nil => exact .blank hNone .nil
  | cons field rest ih => simpa using Spaced.field field hNone hNone ih

/-- Trimmed, and without those that are blank, the fields are the same. -/
theorem filter_trim_of_spaced {fields more : List (List Char)} (h : Spaced fields more) :
    (more.map trim).filter (fun m => !m.isEmpty) =
      (fields.map trim).filter fun m => !m.isEmpty := by
  induction h with
  | nil => rfl
  | blank hAdded _ ih => simpa [trim_of_blanks hAdded] using ih
  | field field hBefore hAfter _ ih =>
    rw [List.map_cons, trim_append_blanks hBefore hAfter, List.map_cons, List.filter_cons, ih,
      List.filter_cons]

/-- White space around members, and members of white space alone, do not count. -/
theorem members_of_spaced {text other : List Char}
    (h : Spaced (splitOn ',' text) (splitOn ',' other)) : members other = members text :=
  filter_trim_of_spaced h

/-- A comma at the end adds an empty field. -/
theorem splitOn_append_comma (text : List Char) :
    splitOn ',' (text ++ [',']) = splitOn ',' text ++ [[]] := by
  induction text with
  | nil => rfl
  | cons c rest ih =>
    rw [List.cons_append, splitOn, splitOn, ih]
    by_cases hc : c = ','
    · rw [if_pos hc, if_pos hc, List.cons_append]
    · obtain ⟨field, more, hFields⟩ := List.exists_cons_of_ne_nil (splitOn_ne_nil ',' rest)
      rw [if_neg hc, if_neg hc, hFields]
      rfl

/-! ## What a header is read as -/

theorem parse_congr {text other : String} (h : members other.toList = members text.toList) :
    parse other = parse text := by
  rw [parse, parse, h]

section Cut

variable {text : String} {pairs : List (String × String)}
  (h : List.Forall₂ CutsTo (members text.toList) pairs)
include h

theorem parse_of_cuts : parse text = ofPairs pairs := by
  rw [parse, mapM_pairOf_of_cuts h]

/-- The pairs that are no pairs of a trace state, of those that were cut out of a header. -/
theorem find?_of_cuts :
    pairs.find? (fun p => !isValid p) = pairs.find? fun p => ¬Admissible p := by
  refine List.find?_congr fun p hp => ?_
  obtain ⟨member, hMember, hPair⟩ := exists_mem_of_mapM_except (mapM_pairOf_of_cuts h) p hp
  have hValid := isValid_iff_admissible (pairOf_eq_ok_iff.1 hPair)
    (comma_notMem_of_mem_members hMember)
  rw [Bool.eq_iff_iff]
  simp [← hValid]

theorem exists_parse_iff : (∃ made, parse text = .ok made) ↔ ∀ p ∈ pairs, Admissible p := by
  rw [parse_of_cuts h, ofPairs_eq, find?_of_cuts h]
  cases hFind : pairs.find? fun p => ¬Admissible p with
  | none =>
    have hAll : ∀ p ∈ pairs, Admissible p := by simpa using hFind
    exact ⟨fun _ => hAll, fun _ => ⟨_, rfl⟩⟩
  | some p =>
    have hNot : ¬Admissible p := by simpa using List.find?_some hFind
    exact ⟨fun ⟨_, hOk⟩ => (nomatch hOk), fun hAll =>
      absurd (hAll p (List.mem_of_find?_eq_some hFind)) hNot⟩

theorem parse_of_find? {p : String × String}
    (hFind : pairs.find? (fun p => ¬Admissible p) = some p) :
    parse text = .error (faultOf p) := by
  rw [parse_of_cuts h, ofPairs_eq, find?_of_cuts h, hFind]

end Cut

/-- **Which headers are accepted.** A header is read by its members alone: what stands between the
commas, trimmed, and without what is blank. The first member that has no `=` is an error, whatever
stands before it. If there is none, each member is cut at its first `=`, and the header is read as
these pairs; it is accepted just if every key is valid and every value is short enough and has no
further `=`, and else the first pair of which this is not true gives the error. A comma at the end,
blank members and white space around members make no difference. -/
theorem header_acceptance (text : String) :
    (∀ fields, fields ≠ [] → (∀ field ∈ fields, ',' ∉ field) →
      [','].intercalate fields = text.toList →
      members text.toList = (fields.map trim).filter fun m => !m.isEmpty) ∧
    (∀ other : String, members other.toList = members text.toList → parse other = parse text) ∧
    (∀ m, (members text.toList).find? (fun m => '=' ∉ m) = some m →
      parse text = .error (.member (String.ofList m))) ∧
    ((∀ m ∈ members text.toList, '=' ∈ m) →
      ∃ pairs, List.Forall₂ CutsTo (members text.toList) pairs) ∧
    (∀ pairs, List.Forall₂ CutsTo (members text.toList) pairs →
      parse text = ofPairs pairs ∧
        ((∃ made, parse text = .ok made) ↔ ∀ p ∈ pairs, Admissible p) ∧
        ∀ p, pairs.find? (fun p => ¬Admissible p) = some p →
          parse text = .error (if validKey p.1 then .value p.2 else .key p.1)) ∧
    parse (text ++ ",") = parse text ∧
    ∀ other : String, Spaced (splitOn ',' text.toList) (splitOn ',' other.toList) →
      parse other = parse text := by
  refine ⟨fun fields hNe hFree hText => ?_, fun other => parse_congr, fun m hFind => ?_,
    exists_cuts, fun pairs hCuts => ⟨parse_of_cuts hCuts, exists_parse_iff hCuts, fun p =>
    parse_of_find? hCuts⟩, parse_congr (members_of_spaced ?_), fun other hSpaced =>
    parse_congr (members_of_spaced hSpaced)⟩
  · rw [members, splitOn_eq_iff.2 ⟨hNe, hText, hFree⟩]
  · rw [parse, mapM_pairOf_of_find? hFind]
  · rw [String.toList_append, show ",".toList = [','] from rfl, splitOn_append_comma]
    exact spaced_append_nil _

/-- A member without `=` comes before a key that is not valid, even if that key stands first, and a
key that is not valid before a value behind it. White space and blank members on both sides of a
member leave the header as it is read. -/
theorem header_acceptance_spaced :
    parse "B=1, x" = .error (.member "x") ∧
      parse "a=1,B=2,c==3" = .error (.key "B") ∧
      parse "\u3000,\t a=1\u2028," = parse "a=1" := by
  refine ⟨?_, ?_, ?_⟩
  · obtain ⟨-, -, hMember, -⟩ := header_acceptance "B=1, x"
    exact hMember ['x'] (by decide)
  · obtain ⟨-, -, -, -, hCut, -⟩ := header_acceptance "a=1,B=2,c==3"
    have hCuts : List.Forall₂ CutsTo [['a', '=', '1'], ['B', '=', '2'], ['c', '=', '=', '3']]
        [("a", "1"), ("B", "2"), ("c", "=3")] :=
      .cons ⟨rfl, by decide⟩ (.cons ⟨rfl, by decide⟩ (.cons ⟨rfl, by decide⟩ .nil))
    exact (hCut _ hCuts).2.2 ("B", "2") (by decide)
  · obtain ⟨-, -, -, -, -, -, hSpaced⟩ := header_acceptance "a=1"
    have hBlank : ∀ blanks ∈ [['\u3000'], ['\t', ' '], ['\u2028'], []],
        ∀ c ∈ blanks, isBlank c = true := by simp [isBlank]
    have hMember : Spaced [['a', '=', '1']] [['\t', ' '] ++ ['a', '=', '1'] ++ ['\u2028'], []] :=
      .field _ (hBlank _ (by simp)) (hBlank _ (by simp)) (.blank (hBlank _ (by simp)) .nil)
    exact hSpaced _ (.blank (hBlank ['\u3000'] (by simp)) hMember)

end SpanFlow.TraceState
