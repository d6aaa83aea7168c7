import Mathlib.Data.List.Nodup
import SpanFlow.Context.Entries

/-!
# The entries of a context are a finite map

`Entries` has two shapes, five slots with a count or a list, and `insert` has five branches. This
module reduces both to one: the list of entries in the order in which their keys were first bound.
On that list `insert` is `put`, which overwrites in place or appends, whatever shape the entries
have before and after.

The reduction is only true of slots that are filled from the front: moving to the list drops empty
slots without a word, and a gap would be dropped with them. `WellFormed` is the invariant that rules
gaps out, and every map that is built from `single` by `insert` has it.

## Main results

* `toList_insert`: on well-formed entries, inserting is `put` on the list.
* `wellFormed_insert`, `wellFormed_single`: well-formed entries stay so.
* `get?_insert`, `keys_insert`, `size_eq_length_keys`: the laws of a finite map.
-/

namespace SpanFlow.Context.Entries

variable {β : Type}

/-! ## The invariant -/

/-- The keys, in the order in which they were first bound. -/
def keys (m : Entries β) : List Nat := m.toList.map Entry.key

/-- Whether the bindings lie in slots. -/
def isInline : Entries β → Bool
  | inline _ _ => true
  | spilled _ => false

/-- Slots are filled from the front, exactly as many as are counted and at least one; a list is
longer than the slots could hold. -/
def LaidOut : Entries β → Prop
  | inline used slots =>
    0 < used ∧ used ≤ inlineCapacity ∧
      ∀ (i : Nat) (h : i < inlineCapacity), slots[i].isSome = true ↔ i < used
  | spilled entries => inlineCapacity < entries.length

/-- Entries as the library builds them. -/
structure WellFormed (m : Entries β) : Prop where
  laidOut : m.LaidOut
  nodup_keys : m.keys.Nodup

/-! ## One list behind both shapes -/

/-- A list of entries with a key bound to a value, in its place or at the end. -/
def put (key : Nat) (value : β) (entries : List (Entry β)) : List (Entry β) :=
  match entries.findIdx? fun e => e.key == key with
  | some i => entries.set i ⟨key, value⟩
  | none => entries ++ [⟨key, value⟩]

/-- The slots that hold a list from the front. -/
def slotsOf (entries : List (Entry β)) : List (Option (Entry β)) :=
  entries.map some ++ List.replicate (inlineCapacity - entries.length) none

theorem take_slotsOf (entries : List (Entry β)) :
    (slotsOf entries).take entries.length = entries.map some := by
  rw [slotsOf, List.take_append_of_le_length (by simp), List.take_of_length_le (by simp)]

theorem filterMap_slotsOf (entries : List (Entry β)) :
    (slotsOf entries).filterMap id = entries := by
  simp [slotsOf, List.filterMap_append, List.filterMap_map, List.filterMap_replicate_of_none]

/-- A list with values up to an index and none from there on, taken apart at that index. -/
private theorem exists_map_some_append {α : Type} (slots : List (Option α)) :
    ∀ used : Nat, used ≤ slots.length →
      (∀ (i : Nat) (h : i < slots.length), slots[i].isSome = true ↔ i < used) →
      ∃ values : List α, values.length = used ∧
        slots = values.map some ++ List.replicate (slots.length - used) none := by
  induction slots with
  | nil =>
    intro used hLe _
    exact ⟨[], (Nat.le_zero.1 hLe).symm, by simp⟩
  | cons slot rest ih =>
    intro used hLe hFilled
    have hHead := hFilled 0 (by simp)
    cases used with
    | zero =>
      obtain ⟨values, hLength, hRest⟩ := ih 0 (Nat.zero_le _) fun i hi => by
        simpa using hFilled (i + 1) (Nat.succ_lt_succ hi)
      obtain rfl : values = [] := List.eq_nil_of_length_eq_zero hLength
      have hSlot : slot = none := by simpa using hHead
      refine ⟨[], rfl, ?_⟩
      rw [hSlot, hRest]
      simp [List.replicate_succ]
    | succ used =>
      obtain ⟨values, hLength, hRest⟩ := ih used (Nat.le_of_succ_le_succ hLe) fun i hi => by
        simpa using hFilled (i + 1) (Nat.succ_lt_succ hi)
      have hSlot : slot.isSome = true := by simpa using hHead
      obtain ⟨value, rfl⟩ := Option.isSome_iff_exists.1 hSlot
      refine ⟨value :: values, by simp [hLength], ?_⟩
      rw [List.map_cons, List.cons_append, List.length_cons, Nat.add_sub_add_right, ← hRest]

private theorem set_slotsOf {entries : List (Entry β)} {i : Nat} (h : i < entries.length)
    (e : Entry β) : (slotsOf entries).set i (some e) = slotsOf (entries.set i e) := by
  rw [slotsOf, slotsOf, List.set_append_left _ _ (by simpa using h), List.map_set,
    List.length_set]

private theorem set_slotsOf_length {entries : List (Entry β)}
    (h : entries.length < inlineCapacity) (e : Entry β) :
    (slotsOf entries).set entries.length (some e) = slotsOf (entries ++ [e]) := by
  have hFree : inlineCapacity - entries.length =
      inlineCapacity - (entries.length + 1) + 1 := by omega
  rw [slotsOf, slotsOf, hFree, List.replicate_succ,
    List.set_append_right _ _ (by simp)]
  simp

/-! ## The refinement -/

/-- Entries, of either shape, that hold a list. -/
def Holds : Entries β → List (Entry β) → Prop
  | inline used slots, entries =>
    used = entries.length ∧ 0 < entries.length ∧ entries.length ≤ inlineCapacity ∧
      slots.toList = slotsOf entries
  | spilled stored, entries => stored = entries ∧ inlineCapacity < entries.length

theorem Holds.toList_eq {m : Entries β} {entries : List (Entry β)} (h : m.Holds entries) :
    m.toList = entries := by
  cases m with
  | inline used slots =>
    obtain ⟨rfl, _, _, hSlots⟩ := h
    rw [toList, hSlots, take_slotsOf]
    simp
  | spilled stored => exact h.1

theorem Holds.size_eq {m : Entries β} {entries : List (Entry β)} (h : m.Holds entries) :
    m.size = entries.length := by
  cases m with
  | inline used slots => exact h.1
  | spilled stored => exact congrArg List.length h.1

theorem Holds.isInline_iff {m : Entries β} {entries : List (Entry β)} (h : m.Holds entries) :
    m.isInline = true ↔ entries.length ≤ inlineCapacity := by
  cases m with
  | inline used slots => exact ⟨fun _ => h.2.2.1, fun _ => rfl⟩
  | spilled stored =>
    have hLong : ¬ entries.length ≤ inlineCapacity := Nat.not_le.2 h.2
    simp [isInline, hLong]

theorem LaidOut.holds_toList {m : Entries β} (h : m.LaidOut) : m.Holds m.toList := by
  cases m with
  | inline used slots =>
    obtain ⟨hPos, hLe, hFilled⟩ := h
    have hSize : slots.toList.length = inlineCapacity := by simp
    obtain ⟨entries, rfl, hSlots⟩ :=
      exists_map_some_append slots.toList used (by omega) fun i hi => by
        simpa using hFilled i (by omega)
    have hHolds : (inline entries.length slots).Holds entries :=
      ⟨rfl, hPos, hLe, by rw [slotsOf, hSlots, hSize]⟩
    rwa [hHolds.toList_eq]
  | spilled stored => exact ⟨rfl, h⟩

theorem Holds.laidOut {m : Entries β} {entries : List (Entry β)} (h : m.Holds entries) :
    m.LaidOut := by
  cases m with
  | inline used slots =>
    obtain ⟨rfl, hPos, hLe, hSlots⟩ := h
    refine ⟨hPos, hLe, fun i hi => ?_⟩
    have hSlot : some slots[i] = (slotsOf entries)[i]? := by simp [← hSlots]
    by_cases hUsed : i < entries.length
    · rw [slotsOf, List.getElem?_append_left (by simpa using hUsed)] at hSlot
      have hValue : slots[i] = some entries[i] := by simpa [hUsed] using hSlot
      simp [hValue, hUsed]
    · rw [slotsOf, List.getElem?_append_right (by simpa using hUsed)] at hSlot
      have hFree : slots[i] = none :=
        List.eq_of_mem_replicate (List.mem_of_getElem? hSlot.symm)
      simp [hFree, hUsed]
  | spilled stored =>
    obtain ⟨rfl, hLong⟩ := h
    exact hLong

private theorem findIdx?_take_slotsOf (key : Nat) (entries : List (Entry β)) :
    ((slotsOf entries).take entries.length).findIdx? (holds key) =
      entries.findIdx? fun e => e.key == key := by
  rw [take_slotsOf, List.findIdx?_map]
  rfl

private theorem insert_spilled (stored : List (Entry β)) (key : Nat) (value : β) :
    (spilled stored).insert key value = spilled (put key value stored) := by
  simp only [Entries.insert, put]
  cases stored.findIdx? fun e => e.key == key <;> rfl

private theorem inlineCapacity_lt_length_put {stored : List (Entry β)}
    (h : inlineCapacity < stored.length) (key : Nat) (value : β) :
    inlineCapacity < (put key value stored).length := by
  unfold put
  split
  · simpa using h
  · rw [List.length_append]
    omega

/-- All five branches of `insert` are one operation on the list that is held. -/
theorem Holds.insert {m : Entries β} {entries : List (Entry β)} (h : m.Holds entries)
    (key : Nat) (value : β) : (m.insert key value).Holds (put key value entries) := by
  cases m with
  | inline used slots =>
    obtain ⟨rfl, hPos, hLe, hSlots⟩ := h
    unfold Entries.insert put
    simp only [hSlots, findIdx?_take_slotsOf]
    cases hFind : entries.findIdx? fun e => e.key == key with
    | some i =>
      have hi : i < entries.length := (List.findIdx?_eq_some_iff_getElem.1 hFind).1
      refine ⟨by simp, by simpa using hPos, by simpa using hLe, ?_⟩
      rw [Vector.toList_setIfInBounds, hSlots, set_slotsOf hi]
    | none =>
      by_cases hRoom : entries.length < inlineCapacity
      · simp only [hRoom, if_true]
        refine ⟨by simp, by simp, by rw [List.length_append]; exact hRoom, ?_⟩
        rw [Vector.toList_setIfInBounds, hSlots, set_slotsOf_length hRoom]
      · simp only [hRoom, if_false, filterMap_slotsOf]
        exact ⟨rfl, by rw [List.length_append, List.length_singleton]; omega⟩
  | spilled stored =>
    obtain ⟨rfl, hLong⟩ := h
    rw [insert_spilled]
    exact ⟨rfl, inlineCapacity_lt_length_put hLong key value⟩

/-- On entries that are laid out as they should be, inserting is `put` on the list. -/
theorem toList_insert {m : Entries β} (h : m.LaidOut) (key : Nat) (value : β) :
    (m.insert key value).toList = put key value m.toList :=
  (h.holds_toList.insert key value).toList_eq

/-! ## The laws of a finite map -/

theorem put_nil (key : Nat) (value : β) : put key value [] = [⟨key, value⟩] := rfl

theorem put_cons (key : Nat) (value : β) (e : Entry β) (rest : List (Entry β)) :
    put key value (e :: rest) =
      if e.key = key then ⟨key, value⟩ :: rest else e :: put key value rest := by
  unfold put
  rw [List.findIdx?_cons]
  by_cases hKey : e.key = key
  · simp [hKey]
  · cases hFind : rest.findIdx? fun e => e.key == key <;> simp [hKey]

/-- A key that is bound keeps its place; another one comes last. -/
theorem map_key_put (key : Nat) (value : β) (entries : List (Entry β)) :
    (put key value entries).map Entry.key =
      if key ∈ entries.map Entry.key then entries.map Entry.key
      else entries.map Entry.key ++ [key] := by
  induction entries with
  | nil => rfl
  | cons e rest ih =>
    rw [put_cons]
    by_cases hKey : e.key = key
    · simp [hKey]
    · have hOther : ¬ key = e.key := fun h => hKey h.symm
      rw [if_neg hKey, List.map_cons, ih]
      by_cases hMem : key ∈ rest.map Entry.key <;> simp [hMem, hOther]

/-- A key that is bound has the value it was bound to, and no other key is touched. -/
theorem find?_put (key other : Nat) (value : β) (entries : List (Entry β)) :
    ((put key value entries).find? fun e => e.key == other).map Entry.value =
      if key = other then some value
      else (entries.find? fun e => e.key == other).map Entry.value := by
  induction entries with
  | nil => by_cases h : key = other <;> simp [put_nil, h]
  | cons e rest ih =>
    rw [put_cons]
    by_cases hKey : e.key = key
    · by_cases h : key = other <;> simp [hKey, h]
    · rw [if_neg hKey]
      by_cases hHead : e.key = other
      · have hOther : ¬ key = other := fun h => hKey (hHead.trans h.symm)
        simp [hHead, hOther]
      · simpa [hHead] using ih

theorem find?_set_of_findIdx? {α : Type} {p : α → Bool} {l : List α} {i : Nat} {a : α}
    (hFind : l.findIdx? p = some i) (ha : p a = true) : (l.set i a).find? p = some a := by
  induction l generalizing i with
  | nil => simp at hFind
  | cons b rest ih =>
    rw [List.findIdx?_cons] at hFind
    by_cases hb : p b = true
    · rw [if_pos hb] at hFind
      obtain rfl := Option.some.inj hFind
      simp [ha]
    · rw [if_neg hb] at hFind
      obtain ⟨j, hj, rfl⟩ := Option.map_eq_some_iff.1 hFind
      simp [hb, ih hj]

/-- A key is bound to what it was bound to last, however the entries are laid out. -/
theorem get?_insert_self (m : Entries β) (key : Nat) (value : β) :
    (m.insert key value).get? key = some value := by
  have hHolds : holds key (some (⟨key, value⟩ : Entry β)) = true := by simp [holds]
  have hAny : (fun slot : Option (Entry β) => (id slot).any fun e => e.key == key) = holds key :=
    rfl
  have hInline : ∀ (used : Nat) (slots : Vector (Option (Entry β)) inlineCapacity),
      (slots.toList.take used).find? (holds key) = some (some ⟨key, value⟩) →
        (inline used slots).get? key = some value := by
    intro used slots h
    rw [get?, toList, List.find?_filterMap, hAny, h]
    rfl
  cases m with
  | inline used slots =>
    rw [insert]
    split
    · rename_i i hFind
      refine hInline used _ ?_
      rw [Vector.toList_setIfInBounds, List.take_set]
      exact find?_set_of_findIdx? hFind hHolds
    · rename_i hNone
      have hFree : (slots.toList.take used).find? (holds key) = none :=
        List.find?_eq_none.2 fun slot hSlot => by
          simp [List.findIdx?_eq_none_iff.1 hNone slot hSlot]
      split
      · rename_i hRoom
        refine hInline (used + 1) _ ?_
        have hLt : used < slots.toList.length := by simpa using hRoom
        have hTaken : (slots.toList.take used).length ≤ used := List.length_take_le _ _
        rw [Vector.toList_setIfInBounds, List.take_add_one, List.take_set,
          List.getElem?_set_self hLt, List.set_eq_of_length_le hTaken, List.find?_append, hFree]
        simp [hHolds]
      · rename_i hFull
        have hTake : slots.toList.take used = slots.toList :=
          List.take_of_length_le (by simpa using hFull)
        rw [hTake] at hFree
        have hStored : (slots.toList.filterMap id).find? (fun e => e.key == key) = none := by
          rw [List.find?_filterMap, hAny, hFree]
          rfl
        rw [get?, toList, List.find?_append, hStored]
        simp
  | spilled entries =>
    rw [insert]
    split
    · rename_i i hFind
      rw [get?, toList, find?_set_of_findIdx? hFind (by simp)]
      rfl
    · rename_i hNone
      have hFree : entries.find? (fun e => e.key == key) = none := by simpa using hNone
      rw [get?, toList, List.find?_append, hFree]
      simp

/-- An inserted key has its value, and all other keys have what they had. -/
theorem get?_insert {m : Entries β} (h : m.LaidOut) (key other : Nat) (value : β) :
    (m.insert key value).get? other = if key = other then some value else m.get? other := by
  rw [get?, toList_insert h, find?_put]
  rfl

/-- A new key comes last, and a key that is there keeps its place. -/
theorem keys_insert {m : Entries β} (h : m.LaidOut) (key : Nat) (value : β) :
    (m.insert key value).keys = if key ∈ m.keys then m.keys else m.keys ++ [key] := by
  rw [keys, toList_insert h, map_key_put]
  rfl

/-- The size counts the keys, as long as bindings lie in slots and when they no longer do. -/
theorem size_eq_length_keys {m : Entries β} (h : m.LaidOut) : m.size = m.keys.length := by
  rw [h.holds_toList.size_eq, keys, List.length_map]

/-- Entries are never empty: the context without values has none. -/
theorem keys_ne_nil {m : Entries β} (h : m.LaidOut) : m.keys ≠ [] := by
  intro hKeys
  have hNone : m.toList = [] := List.map_eq_nil_iff.1 hKeys
  have hHolds := h.holds_toList
  rw [hNone] at hHolds
  cases m with
  | inline used slots => exact absurd hHolds.2.1 (by simp)
  | spilled stored => exact absurd hHolds.2 (by simp)

theorem isInline_iff {m : Entries β} (h : m.LaidOut) :
    m.isInline = true ↔ m.keys.length ≤ inlineCapacity := by
  rw [h.holds_toList.isInline_iff, keys, List.length_map]

/-- A map with one binding is well formed. -/
theorem wellFormed_single (key : Nat) (value : β) : (single key value).WellFormed where
  laidOut := by
    refine ⟨Nat.one_pos, by decide, fun i hi => ?_⟩
    by_cases h : 0 = i
    · subst h
      simp
    · simp [h, show ¬ i = 0 from fun hi => h hi.symm]
  nodup_keys := by simp [keys, toList_single]

/-- Inserting keeps entries well formed, across the move from slots to a list as well. -/
theorem wellFormed_insert {m : Entries β} (h : m.WellFormed) (key : Nat) (value : β) :
    (m.insert key value).WellFormed where
  laidOut := (h.laidOut.holds_toList.insert key value).laidOut
  nodup_keys := by
    rw [keys_insert h.laidOut]
    by_cases hMem : key ∈ m.keys
    · rw [if_pos hMem]
      exact h.nodup_keys
    · rw [if_neg hMem]
      exact List.nodup_append.2 ⟨h.nodup_keys, by simp, fun a ha b hb => by
        rintro rfl
        exact hMem (by simpa using List.mem_singleton.1 hb ▸ ha)⟩

end SpanFlow.Context.Entries
