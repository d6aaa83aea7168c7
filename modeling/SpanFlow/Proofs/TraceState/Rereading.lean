import SpanFlow.Proofs.Text.Cutting
import SpanFlow.Proofs.TraceState.Members

/-!
# Reading the header of a trace state

The header of a state is read as the state without the blanks at the ends of its values, and as
nothing else. What the validators leave out of keys and values is what makes this so. Neither holds
a comma, so cutting at the commas finds the members again; a key holds no `=`, so the first cut
inside of a member is the one between its key and its value; and a key begins with a letter or a
digit, so trimming a member gets no further than the end of its value.

The blanks that are lost on reading do stand in the header. So two states can be told apart by
their headers even where reading takes these for one another.

## Main results

* `members_texts`: the members of a header, trimmed.
* `parse_header`: what the header of a well-formed state is read as.
* `header_reread`: the same for every state that can be reached, and when nothing is lost.
* `header_inj`: states that can be reached have different headers if they differ.
-/

namespace SpanFlow

namespace Text.Utf8

theorem byteLength_append (before after : List Char) :
    byteLength (before ++ after) = byteLength before + byteLength after := by
  induction before with
  | nil => simp [byteLength]
  | cons c rest ih =>
    simp only [byteLength, List.cons_append, List.foldr_cons] at ih ⊢
    omega

end Text.Utf8

section Checked

variable {ε α γ : Type} {f : α → Except ε γ}

theorem mapM_except_cons (x : α) (rest : List α) :
    (x :: rest).mapM f =
      match f x with
      | .error e => .error e
      | .ok y => (rest.mapM f).map (y :: ·) := by
  rw [List.mapM_cons]
  cases f x with
  | error e => rfl
  | ok y => cases rest.mapM f <;> rfl

theorem mapM_except_eq_ok {g : α → γ} {xs : List α} (h : ∀ x ∈ xs, f x = .ok (g x)) :
    xs.mapM f = .ok (xs.map g) := by
  induction xs with
  | nil => rfl
  | cons x rest ih =>
    rw [mapM_except_cons, h x List.mem_cons_self, ih fun y hy => h y (List.mem_cons_of_mem x hy)]
    rfl

/-- What a run over a list yields, an element of the list has yielded. -/
theorem exists_mem_of_mapM_except {xs : List α} {ys : List γ} (h : xs.mapM f = .ok ys) :
    ∀ y ∈ ys, ∃ x ∈ xs, f x = .ok y := by
  induction xs generalizing ys with
  | nil =>
    cases h
    simp
  | cons x rest ih =>
    rw [mapM_except_cons] at h
    cases hHead : f x with
    | error e => simp [hHead] at h
    | ok first =>
      cases hTail : rest.mapM f with
      | error e => simp [hHead, hTail, Except.map] at h
      | ok others =>
        simp only [hHead, hTail, Except.map, Except.ok.injEq] at h
        subst h
        intro y hy
        rcases List.mem_cons.1 hy with rfl | hy
        · exact ⟨x, List.mem_cons_self, hHead⟩
        · obtain ⟨x', hx', hYields⟩ := ih hTail y hy
          exact ⟨x', List.mem_cons_of_mem x hx', hYields⟩

end Checked

namespace TraceState

open Text

/-! ## What keys and values leave out -/

/-- Characters of keys lie between `*` and `z`. -/
theorem toNat_of_isKeyChar {c : Char} (h : isKeyChar c = true) :
    42 ≤ c.toNat ∧ c.toNat ≤ 122 := by
  simp only [isKeyChar, isAlnum, Bool.or_eq_true, Bool.and_eq_true, decide_eq_true_eq,
    beq_iff_eq] at h
  rcases h with (((((h | h) | rfl) | rfl) | rfl) | rfl) | rfl
  · have hLow : 97 ≤ c.toNat := UInt32.le_iff_toNat_le.1 h.1
    have hHigh : c.toNat ≤ 122 := UInt32.le_iff_toNat_le.1 h.2
    omega
  · have hLow : 48 ≤ c.toNat := UInt32.le_iff_toNat_le.1 h.1
    have hHigh : c.toNat ≤ 57 := UInt32.le_iff_toNat_le.1 h.2
    omega
  all_goals decide

/-- Characters of keys are neither blanks nor the signs of a header. -/
theorem isKeyChar_excludes {c : Char} (h : isKeyChar c = true) :
    isBlank c = false ∧ c ≠ ',' ∧ c ≠ '=' := by
  refine ⟨?_, ?_, ?_⟩
  · have hCode := toNat_of_isKeyChar h
    simp only [isBlank, Bool.or_eq_false_iff, Bool.and_eq_false_iff, decide_eq_false_iff_not,
      beq_eq_false_iff_ne]
    omega
  · rintro rfl
    revert h
    decide
  · rintro rfl
    revert h
    decide

section Key

variable {key : String} (h : validKey key = true)
include h

theorem isKeyChar_of_validKey : ∀ c ∈ key.toList, isKeyChar c = true := by
  simp only [validKey, Bool.and_eq_true, decide_eq_true_eq] at h
  exact isKeyChar_of_acceptsFrom h.2

theorem comma_notMem_key : ',' ∉ key.toList := fun hMem =>
  (isKeyChar_excludes (isKeyChar_of_validKey h _ hMem)).2.1 rfl

theorem equals_notMem_key : '=' ∉ key.toList := fun hMem =>
  (isKeyChar_excludes (isKeyChar_of_validKey h _ hMem)).2.2 rfl

/-- A key has a first character, and that is not blank. -/
theorem exists_cons_of_validKey :
    ∃ c rest, key.toList = c :: rest ∧ isBlank c = false := by
  have hKeyChar := isKeyChar_of_validKey h
  cases hChars : key.toList with
  | nil => simp [validKey, hChars, Utf8.byteLength] at h
  | cons c rest =>
    rw [hChars] at hKeyChar
    exact ⟨c, rest, rfl, (isKeyChar_excludes (hKeyChar c List.mem_cons_self)).1⟩

end Key

theorem validValue_iff {value : String} :
    validValue value = true ↔
      Utf8.byteLength value.toList ≤ 256 ∧ ',' ∉ value.toList ∧ '=' ∉ value.toList := by
  simp only [validValue, Bool.and_eq_true, decide_eq_true_eq, List.all_eq_true, bne_iff_ne, ne_eq]
  refine and_congr_right fun _ => ⟨fun hAll => ?_, fun hFree c hc => ?_⟩
  · exact ⟨fun hMem => (hAll _ hMem).1 rfl, fun hMem => (hAll _ hMem).2 rfl⟩
  · exact ⟨fun hc' => hFree.1 (hc' ▸ hc), fun hc' => hFree.2 (hc' ▸ hc)⟩

/-! ## Members as texts -/

/-- A member as it stands in a header. -/
def memberText (m : String × String) : List Char := m.1.toList ++ '=' :: m.2.toList

/-- A member without the blanks at the end of its value. -/
def trimmedMember (m : String × String) : String × String :=
  (m.1, String.ofList (trimRight m.2.toList))

theorem toList_header (ts : TraceState) :
    ts.header.toList = [','].intercalate (ts.entries.map memberText) := by
  have hComma : ",".toList = [','] := rfl
  have hEquals : "=".toList = ['='] := rfl
  simp only [header, joined, hComma, hEquals, String.toList_ofList, List.append_assoc,
    List.singleton_append]
  rfl

/-- What is trimmed has the bytes and characters of a beginning of what was there. -/
theorem isValid_trimmedMember {m : String × String} (h : isValid m = true) :
    isValid (trimmedMember m) = true := by
  simp only [isValid, Bool.and_eq_true, trimmedMember] at h ⊢
  obtain ⟨hSize, hComma, hEquals⟩ := validValue_iff.1 h.2
  obtain ⟨blanks, hValue⟩ := trimRight_prefix m.2.toList
  rw [← hValue] at hSize hComma hEquals
  rw [Utf8.byteLength_append] at hSize
  refine ⟨h.1, validValue_iff.2 ?_⟩
  rw [String.toList_ofList]
  exact ⟨by omega, fun hMem => hComma (List.mem_append_left _ hMem),
    fun hMem => hEquals (List.mem_append_left _ hMem)⟩

theorem Proper.map_trimmedMember {members : List (String × String)} (h : Proper members) :
    Proper (members.map trimmedMember) where
  valid m hm := by
    obtain ⟨m', hm', rfl⟩ := List.mem_map.1 hm
    exact isValid_trimmedMember (h.valid m' hm')
  nodup_keys := by
    rw [List.map_map]
    exact h.nodup_keys

section Member

variable {m : String × String} (h : isValid m = true)
include h

theorem comma_notMem_memberText : ',' ∉ memberText m := by
  simp only [isValid, Bool.and_eq_true] at h
  have hKey := comma_notMem_key h.1
  have hValue := (validValue_iff.1 h.2).2.1
  simp [memberText, hKey, hValue]

/-- Trimming a member gets as far as the end of its value. -/
theorem trim_memberText : trim (memberText m) = memberText (trimmedMember m) := by
  simp only [isValid, Bool.and_eq_true] at h
  obtain ⟨c, rest, hChars, hBlank⟩ := exists_cons_of_validKey h.1
  have hHead : (memberText m).dropWhile isBlank = memberText m :=
    dropWhile_eq_self fun c' hc' => by
      rw [memberText, hChars] at hc'
      cases hc'
      exact hBlank
  rw [trim, hHead, memberText, trimRight_append_cons (by decide)]
  simp [memberText, trimmedMember]

/-- The first cut inside of a member is behind its key. -/
theorem pairOf_memberText : pairOf (memberText m) = .ok m := by
  simp only [isValid, Bool.and_eq_true] at h
  have hCut : cutAt '=' (memberText m) = some (m.1.toList, m.2.toList) :=
    cutAt_eq_some_iff.2 ⟨rfl, equals_notMem_key h.1⟩
  simp [pairOf, hCut]

end Member

theorem memberText_ne_nil (m : String × String) : memberText m ≠ [] := by simp [memberText]

/-- The members of a header are those that were joined, trimmed. -/
theorem members_texts {ms : List (String × String)} (h : ∀ m ∈ ms, isValid m = true) :
    members ([','].intercalate (ms.map memberText)) =
      (ms.map trimmedMember).map memberText := by
  cases ms with
  | nil => exact members_nil
  | cons m rest =>
    have hFree : ∀ text ∈ (m :: rest).map memberText, ',' ∉ text := by
      intro text hText
      obtain ⟨m', hm', rfl⟩ := List.mem_map.1 hText
      exact comma_notMem_memberText (h m' hm')
    have hTrimmed : ((m :: rest).map memberText).map trim =
        ((m :: rest).map trimmedMember).map memberText := by
      rw [List.map_map, List.map_map]
      exact List.map_congr_left fun m' hm' => trim_memberText (h m' hm')
    rw [members, splitOn_eq_iff.2 ⟨by simp, rfl, hFree⟩, hTrimmed]
    refine List.filter_eq_self.2 fun text hText => ?_
    obtain ⟨m', -, rfl⟩ := List.mem_map.1 hText
    simpa using memberText_ne_nil m'

/-! ## Reading a header back -/

/-- Pairs without a repeated key make the state that has them as its members. -/
theorem ofPairs_of_proper {ms : List (String × String)} (h : Proper ms) :
    ofPairs ms = .ok (ofEntries ms) := by
  have hNone : ms.find? (fun p => !isValid p) = none := by simpa using h.valid
  have hLatest : latest ms = ms := by
    have hNodup := h.nodup_keys
    clear hNone h
    induction ms with
    | nil => rfl
    | cons m rest ih =>
      obtain ⟨hHead, hTail⟩ := List.nodup_cons.1 hNodup
      rw [latest, if_neg hHead, ih hTail]
  rw [ofPairs_eq, hNone, hLatest]

/-- The header of a well-formed state is read as its members, with their values trimmed at the end.
-/
theorem parse_header {ts : TraceState} (h : WellFormed ts) :
    parse ts.header = .ok (ofEntries (ts.entries.map trimmedMember)) := by
  have hTrimmed := h.proper.map_trimmedMember
  have hPairs : ((ts.entries.map trimmedMember).map memberText).mapM pairOf =
      .ok (ts.entries.map trimmedMember) := by
    have hEach : ∀ m ∈ ts.entries.map trimmedMember, (pairOf ∘ memberText) m = .ok (id m) :=
      fun m hm => pairOf_memberText (hTrimmed.valid m hm)
    rw [List.mapM_map, mapM_except_eq_ok hEach, List.map_id]
  rw [parse, toList_header, members_texts h.proper.valid, hPairs]
  exact ofPairs_of_proper hTrimmed

/-- Nothing is taken from a member whose value does not end in a blank. -/
theorem trimmedMember_eq_self_iff {m : String × String} :
    trimmedMember m = m ↔ ∀ c, m.2.toList.getLast? = some c → isBlank c = false := by
  rw [← trimRight_eq_self_iff, trimmedMember, Prod.ext_iff]
  simp [← String.toList_inj]

theorem map_trimmedMember_eq_self_iff {ms : List (String × String)} :
    ms.map trimmedMember = ms ↔
      ∀ m ∈ ms, ∀ c, m.2.toList.getLast? = some c → isBlank c = false := by
  simp only [← trimmedMember_eq_self_iff]
  induction ms with
  | nil => simp
  | cons m rest ih => simp [ih]

/-- The members of a header are trimmed, and a value is the end of one. -/
theorem getLast?_of_pairOf {text : List Char} {member : List Char} {m : String × String}
    (hMember : member ∈ members text) (h : pairOf member = .ok m) :
    ∀ c, m.2.toList.getLast? = some c → isBlank c = false := by
  obtain ⟨field, -, rfl⟩ := List.mem_map.1 (List.mem_filter.1 hMember).1
  unfold pairOf at h
  cases hCut : cutAt '=' (trim field) with
  | none => simp [hCut] at h
  | some parts =>
    obtain ⟨key, value⟩ := parts
    simp only [hCut, Except.ok.injEq] at h
    subst h
    intro c hLast
    rw [String.toList_ofList] at hLast
    refine @isBlank_getLast?_trimRight (field.dropWhile isBlank) c ?_
    have hText : trimRight (field.dropWhile isBlank) = key ++ '=' :: value := (cutAt_eq_some hCut).1
    rw [hText, List.getLast?_append, List.getLast?_cons, hLast]
    rfl

/-- The members of a state that was read from a header stand in that header. -/
theorem exists_member_of_parse {text : String} {made : TraceState} (h : parse text = .ok made) :
    ∀ m ∈ made.entries, ∃ member ∈ members text.toList, pairOf member = .ok m := by
  unfold parse at h
  cases hPairs : (members text.toList).mapM pairOf with
  | error e => simp [hPairs] at h
  | ok pairs =>
    simp only [hPairs, ofPairs_eq] at h
    cases hFind : pairs.find? (fun p => !isValid p) with
    | some p => simp [hFind] at h
    | none =>
      simp only [hFind, Except.ok.injEq] at h
      subst h
      intro m hm
      rw [entries_ofEntries] at hm
      exact exists_mem_of_mapM_except hPairs m ((latest_sublist pairs).subset hm)

theorem getLast?_of_parse {text : String} {made : TraceState} (h : parse text = .ok made) :
    ∀ m ∈ made.entries, ∀ c, m.2.toList.getLast? = some c → isBlank c = false := by
  intro m hm
  obtain ⟨member, hMember, hPair⟩ := exists_member_of_parse h m hm
  exact getLast?_of_pairOf hMember hPair

/-- **Reading a header back.** The header of a state that can be reached is read as that state
without the blanks at the ends of its values. It is read as the state itself just if none of its
values ends in a blank, and of the states that were read from headers none has such a value. -/
theorem header_reread {ts : TraceState} (h : Reached ts) :
    parse ts.header =
        .ok (ofEntries (ts.entries.map fun m => (m.1, String.ofList (trimRight m.2.toList)))) ∧
      (parse ts.header = .ok ts ↔
        ∀ m ∈ ts.entries, ∀ c, m.2.toList.getLast? = some c → isBlank c = false) ∧
      ∀ text made, parse text = .ok made → parse made.header = .ok made := by
  have hSelf : ∀ {other : TraceState}, WellFormed other → (parse other.header = .ok other ↔
      ∀ m ∈ other.entries, ∀ c, m.2.toList.getLast? = some c → isBlank c = false) := by
    intro other hOther
    rw [parse_header hOther, Except.ok.injEq, ← map_trimmedMember_eq_self_iff,
      ← ofEntries_eq_iff, hOther.ofEntries_entries]
  refine ⟨parse_header h.wellFormed, hSelf h.wellFormed, fun text made hMade => ?_⟩
  exact (hSelf (wellFormed_parse hMade)).2 (getLast?_of_parse hMade)

/-- A value of blanks alone becomes an empty one, and blanks before a value stay. -/
theorem header_reread_blank :
    parse (ofEntries [("a", " \u3000"), ("b", " x\t")]).header =
        .ok (ofEntries [("a", ""), ("b", " x")]) ∧
      parse (ofEntries [("a", " \u3000"), ("b", " x\t")]).header ≠
        .ok (ofEntries [("a", " \u3000"), ("b", " x\t")]) ∧
      parse (ofEntries [("a", ""), ("b", " x")]).header =
        .ok (ofEntries [("a", ""), ("b", " x")]) := by
  have hPairs : ofPairs [("a", " \u3000"), ("b", " x\t")] =
      .ok (ofEntries [("a", " \u3000"), ("b", " x\t")]) := by decide
  obtain ⟨hParse, hSelf, hAgain⟩ := header_reread (.ofPairs hPairs)
  have hTrimmed : parse (ofEntries [("a", " \u3000"), ("b", " x\t")]).header =
      .ok (ofEntries [("a", ""), ("b", " x")]) := hParse
  refine ⟨hTrimmed, fun hSame => ?_, hAgain _ _ hTrimmed⟩
  exact absurd (hSelf.1 hSame ("b", " x\t") (by simp) '\t' rfl) (by decide)

/-! ## Telling headers apart -/

theorem map_pairOf_memberText {ms : List (String × String)} (h : ∀ m ∈ ms, isValid m = true) :
    (ms.map memberText).map pairOf = ms.map Except.ok := by
  rw [List.map_map]
  exact List.map_congr_left fun m hm => pairOf_memberText (h m hm)

theorem map_memberText_inj {ms ns : List (String × String)} (hms : ∀ m ∈ ms, isValid m = true)
    (hns : ∀ n ∈ ns, isValid n = true) : ms.map memberText = ns.map memberText ↔ ms = ns := by
  refine ⟨fun h => ?_, congrArg _⟩
  have hOk : ms.map (Except.ok (ε := TraceStateError)) = ns.map Except.ok := by
    rw [← map_pairOf_memberText hms, h, map_pairOf_memberText hns]
  exact List.map_injective_iff.2 (fun _ _ => Except.ok.inj) hOk

theorem memberText_separable {ms : List (String × String)} (h : ∀ m ∈ ms, isValid m = true) :
    ∀ text ∈ ms.map memberText, text ≠ [] ∧ ',' ∉ text := by
  intro text hText
  obtain ⟨m, hm, rfl⟩ := List.mem_map.1 hText
  exact ⟨memberText_ne_nil m, comma_notMem_memberText (h m hm)⟩

/-- **Telling states apart by their headers.** States that can be reached have the same header just
if they are the same state, that is if they have the same members in the same order. -/
theorem header_inj {a b : TraceState} (ha : Reached a) (hb : Reached b) :
    (a.header = b.header ↔ a = b) ∧ (a = b ↔ a.entries = b.entries) := by
  have hValidA := ha.wellFormed.proper.valid
  have hValidB := hb.wellFormed.proper.valid
  have hEntries := ha.wellFormed.eq_iff hb.wellFormed
  refine ⟨?_, hEntries⟩
  calc a.header = b.header
      ↔ [','].intercalate (a.entries.map memberText) =
          [','].intercalate (b.entries.map memberText) := by
        rw [← String.toList_inj, toList_header, toList_header]
    _ ↔ a.entries.map memberText = b.entries.map memberText :=
        intercalate_inj (memberText_separable hValidA) (memberText_separable hValidB)
    _ ↔ a.entries = b.entries := map_memberText_inj hValidA hValidB
    _ ↔ a = b := hEntries.symm

/-- Two states that are read from their headers as one are told apart by these. -/
theorem header_inj_blank :
    let a := ofEntries [("a", ""), ("b", "1 ")]
    let b := ofEntries [("a", " "), ("b", "1")]
    Reached a ∧ Reached b ∧ parse a.header = parse b.header ∧ a.header ≠ b.header := by
  intro a b
  have ha : Reached a := @Reached.ofPairs [("a", ""), ("b", "1 ")] a (by decide)
  have hb : Reached b := @Reached.ofPairs [("a", " "), ("b", "1")] b (by decide)
  refine ⟨ha, hb, ?_, fun hSame => absurd ((header_inj ha hb).1.1 hSame) (by decide)⟩
  rw [parse_header ha.wellFormed, parse_header hb.wellFormed]
  decide

end TraceState

end SpanFlow
