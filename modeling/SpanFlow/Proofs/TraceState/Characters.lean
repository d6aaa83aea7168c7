import SpanFlow.Proofs.TraceState.Rereading

/-!
# Characters of the header of a trace state

A header goes out as the value of a field, where only a space and the visible characters of ASCII
may stand. Keys are made of such characters, and so are the two signs, so it is the values that
decide. They are looked at for the two signs and for their length and for nothing else. A header
therefore stays printable as long as what comes in is so, and any other character that comes in as a
value, a line break among them, goes out in the header.

## Main results

* `printableText_header_iff`: a header is printable just if the values are.
* `memberText_prefix_of_insert`: what is put in as a value goes out as it is.
* `header_printable`: what each way of making a state does to the characters of its header.
-/

namespace SpanFlow

namespace Text

section Intercalate

variable {c sep : Char} {fields : List (List Char)}

theorem mem_intercalate_of_mem {field : List Char} (hField : field ∈ fields) (hc : c ∈ field) :
    c ∈ [sep].intercalate fields := by
  induction fields with
  | nil => cases hField
  | cons first rest ih =>
    cases rest with
    | nil =>
      rw [List.mem_singleton] at hField
      rw [List.intercalate_singleton, ← hField]
      exact hc
    | cons second more =>
      rw [List.intercalate_cons_cons]
      rcases List.mem_cons.1 hField with rfl | hField
      · exact List.mem_append_left _ (List.mem_append_left _ hc)
      · exact List.mem_append_right _ (ih hField)

theorem eq_or_mem_of_mem_intercalate (h : c ∈ [sep].intercalate fields) :
    c = sep ∨ ∃ field ∈ fields, c ∈ field := by
  induction fields with
  | nil => cases h
  | cons first rest ih =>
    cases rest with
    | nil =>
      rw [List.intercalate_singleton] at h
      exact .inr ⟨first, List.mem_cons_self, h⟩
    | cons second more =>
      rw [List.intercalate_cons_cons, List.append_assoc, List.mem_append, List.singleton_append,
        List.mem_cons] at h
      rcases h with hFirst | hSep | hRest
      · exact .inr ⟨first, List.mem_cons_self, hFirst⟩
      · exact .inl hSep
      · obtain hSep | ⟨field, hField, hc⟩ := ih hRest
        · exact .inl hSep
        · exact .inr ⟨field, List.mem_cons_of_mem first hField, hc⟩

end Intercalate

/-- A trimmed field of a text has no characters but those of the text. -/
theorem mem_of_mem_trim_splitOn {c sep : Char} {text field : List Char}
    (hField : field ∈ splitOn sep text) (hc : c ∈ trim field) : c ∈ text := by
  have hPrefix : trim field <+: field.dropWhile isBlank := trimRight_prefix _
  have hUntrimmed : c ∈ field := (List.dropWhile_suffix isBlank).subset (hPrefix.subset hc)
  rw [← (splitOn_eq_iff.1 (Eq.refl (splitOn sep text))).2.1]
  exact mem_intercalate_of_mem hField hUntrimmed

end Text

namespace TraceState

open Text

/-! ## Printable texts -/

/-- A space or a visible character of ASCII. -/
def IsPrintable (c : Char) : Prop := 0x20 ≤ c.toNat ∧ c.toNat ≤ 0x7E

instance : DecidablePred IsPrintable := fun _ => inferInstanceAs (Decidable (_ ∧ _))

/-- A text of printable characters. -/
def PrintableText (text : String) : Prop := ∀ c ∈ text.toList, IsPrintable c

instance : DecidablePred PrintableText := fun text =>
  List.decidableBAll IsPrintable text.toList

/-- Members whose values are printable. -/
def PrintableValues (members : List (String × String)) : Prop := ∀ m ∈ members, PrintableText m.2

theorem isPrintable_of_isKeyChar {c : Char} (h : isKeyChar c = true) : IsPrintable c := by
  have hCode := toNat_of_isKeyChar h
  exact ⟨by omega, by omega⟩

theorem printableText_of_validKey {key : String} (h : validKey key = true) : PrintableText key :=
  fun c hc => isPrintable_of_isKeyChar (isKeyChar_of_validKey h c hc)

/-! ## What a header is made of -/

section WellFormed

variable {ts : TraceState} (h : WellFormed ts)
include h

/-- A header is printable just if the values are: its other characters always are. -/
theorem printableText_header_iff : PrintableText ts.header ↔ PrintableValues ts.entries := by
  have hText : ∀ m ∈ ts.entries, memberText m ∈ ts.entries.map memberText :=
    fun m hm => List.mem_map_of_mem hm
  rw [PrintableText, toList_header]
  constructor
  · intro hHeader m hm c hc
    have hMember : c ∈ memberText m := List.mem_append_right _ (List.mem_cons_of_mem '=' hc)
    exact hHeader c (mem_intercalate_of_mem (hText m hm) hMember)
  · intro hValues c hc
    obtain rfl | ⟨text, hMember, hc⟩ := eq_or_mem_of_mem_intercalate hc
    · decide
    · obtain ⟨m, hm, rfl⟩ := List.mem_map.1 hMember
      have hValid := h.proper.valid m hm
      simp only [isValid, Bool.and_eq_true] at hValid
      rw [memberText, List.mem_append, List.mem_cons] at hc
      rcases hc with hKey | rfl | hValue
      · exact printableText_of_validKey hValid.1 c hKey
      · decide
      · exact hValues m hm c hValue

theorem entries_of_insert {key value : String} {made : TraceState}
    (hMade : ts.insert key value = .ok made) :
    made.entries = (key, value) :: others key ts.entries := by
  rw [h.insert_eq] at hMade
  split at hMade
  · cases hMade
    exact entries_ofEntries _
  · cases hMade

theorem entries_of_erase {key : String} {made : TraceState} (hMade : ts.erase key = .ok made) :
    made.entries = others key ts.entries := by
  rw [h.erase_eq] at hMade
  split at hMade
  · cases hMade
    exact entries_ofEntries _
  · cases hMade

end WellFormed

theorem PrintableValues.others {members : List (String × String)} (h : PrintableValues members)
    (key : String) : PrintableValues (others key members) :=
  fun m hm => h m (mem_others.1 hm).1

theorem printableValues_of_ofPairs {pairs : List (String × String)} {made : TraceState}
    (hMade : ofPairs pairs = .ok made) (h : PrintableValues pairs) :
    PrintableValues made.entries := by
  rw [ofPairs_eq] at hMade
  split at hMade
  · cases hMade
  · cases hMade
    rw [entries_ofEntries]
    exact fun m hm => h m ((latest_sublist pairs).subset hm)

/-- The values of a state that was read from a header are pieces of that header. -/
theorem printableValues_of_parse {text : String} {made : TraceState}
    (hMade : parse text = .ok made) (h : PrintableText text) : PrintableValues made.entries := by
  intro m hm c hc
  obtain ⟨member, hMember, hPair⟩ := exists_member_of_parse hMade m hm
  obtain ⟨field, hField, rfl⟩ := List.mem_map.1 (List.mem_filter.1 hMember).1
  unfold pairOf at hPair
  split at hPair
  · cases hPair
  · rename_i key value hCut
    cases hPair
    rw [String.toList_ofList] at hc
    have hInMember : c ∈ trim field := by
      rw [(cutAt_eq_some hCut).1]
      exact List.mem_append_right _ (List.mem_cons_of_mem '=' hc)
    exact h c (mem_of_mem_trim_splitOn hField hInMember)

/-! ## What gets into a header -/

/-- Any text of a value's length is put in, as long as it has neither of the two signs, and the
header then begins with it behind its key. -/
theorem memberText_prefix_of_insert {ts : TraceState} (h : WellFormed ts) {key value : String}
    (hKey : validKey key = true) (hSize : Utf8.byteLength value.toList ≤ 256)
    (hComma : ',' ∉ value.toList) (hEquals : '=' ∉ value.toList) :
    ∃ made, ts.insert key value = .ok made ∧ memberText (key, value) <+: made.header.toList := by
  have hValid : isValid (key, value) = true := by
    rw [isValid, hKey, validValue_iff.2 ⟨hSize, hComma, hEquals⟩]
    rfl
  refine ⟨ofEntries ((key, value) :: others key ts.entries), by rw [h.insert_eq, if_pos hValid], ?_⟩
  rw [toList_header, entries_ofEntries, List.map_cons]
  cases (others key ts.entries).map memberText with
  | nil => simp [List.intercalate_singleton]
  | cons second more =>
    rw [List.intercalate_cons_cons, List.append_assoc]
    exact List.prefix_append _ _

/-- **Characters of headers.** The header of a state that can be reached is printable just if its
values are. It stays so when a printable value is put in or a member is taken out, and it is so if
the state comes from pairs or from a header with printable values. But no value is refused for a
character that is not printable: any text that is short enough and has neither of the two signs is
put in, and goes out at the front of the header as it is. -/
theorem header_printable {ts : TraceState} (h : Reached ts) :
    (PrintableText ts.header ↔ PrintableValues ts.entries) ∧
      (∀ key value made, ts.insert key value = .ok made → PrintableText ts.header →
        (PrintableText made.header ↔ PrintableText value)) ∧
      (∀ key made, ts.erase key = .ok made → PrintableText ts.header →
        PrintableText made.header) ∧
      (∀ pairs made, ofPairs pairs = .ok made → PrintableValues pairs →
        PrintableText made.header) ∧
      (∀ text made, parse text = .ok made → PrintableText text → PrintableText made.header) ∧
      ∀ key value, validKey key = true → Utf8.byteLength value.toList ≤ 256 →
        ',' ∉ value.toList → '=' ∉ value.toList →
        ∃ made, ts.insert key value = .ok made ∧
          memberText (key, value) <+: made.header.toList := by
  have hWell := h.wellFormed
  refine ⟨printableText_header_iff hWell, fun key value made hMade hHeader => ?_,
    fun key made hMade hHeader => ?_, fun pairs made hMade hPairs => ?_,
    fun text made hMade hText => ?_,
    fun key value => memberText_prefix_of_insert hWell⟩
  · have hBefore := (printableText_header_iff hWell).1 hHeader
    rw [printableText_header_iff (h.insert hMade).wellFormed, entries_of_insert hWell hMade]
    exact List.forall_mem_cons.trans (and_iff_left (hBefore.others key))
  · have hBefore := (printableText_header_iff hWell).1 hHeader
    rw [printableText_header_iff (h.erase hMade).wellFormed, entries_of_erase hWell hMade]
    exact hBefore.others key
  · rw [printableText_header_iff (wellFormed_ofPairs hMade)]
    exact printableValues_of_ofPairs hMade hPairs
  · rw [printableText_header_iff (wellFormed_parse hMade)]
    exact printableValues_of_parse hMade hText

/-- A header that is printable takes a line break in with the next value, and in front of what was
there. -/
theorem header_printable_broken :
    PrintableText (ofEntries [("a", "1")]).header ∧
      ∃ made, (ofEntries [("a", "1")]).insert "b" "2\r\nc" = .ok made ∧
        ¬PrintableText made.header ∧ "b=2\r\nc".toList <+: made.header.toList := by
  have hPairs : ofPairs [("a", "1")] = .ok (ofEntries [("a", "1")]) := by decide
  obtain ⟨hHeader, hInsert, -, -, -, hTaken⟩ := header_printable (.ofPairs hPairs)
  have hValues : PrintableValues (ofEntries [("a", "1")]).entries :=
    List.forall_mem_singleton.2 (by decide)
  have hPrintable := hHeader.2 hValues
  obtain ⟨made, hMade, hPrefix⟩ :=
    hTaken "b" "2\r\nc" (by decide) (by decide) (by decide) (by decide)
  refine ⟨hPrintable, made, hMade, fun hMadeHeader => ?_, hPrefix⟩
  exact absurd ((hInsert _ _ made hMade hPrintable).1 hMadeHeader) (by decide)

/-- A line break in the value of a pair stands in the header of the state that the pair makes. -/
theorem header_not_printable : ¬∀ ts, Reached ts → PrintableText ts.header := by
  intro hAll
  have hPairs : ofPairs [("a", "b\r\nc")] = .ok (ofEntries [("a", "b\r\nc")]) := by decide
  exact absurd (hAll _ (.ofPairs hPairs)) (by decide)

end TraceState

end SpanFlow
