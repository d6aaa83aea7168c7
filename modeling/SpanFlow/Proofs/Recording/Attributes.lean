import Mathlib.Data.List.Nodup
import SpanFlow.Proofs.Recording.Calls

/-!
# The attributes of a span

A span holds the attributes that were written to it under the first distinct keys, as many as its
limit allows, in the order in which these keys were first written. Each has the value of its last
write with the texts in it cut. A write under any other key is dropped and counted.

That says what a record is after all writes. The record itself is changed write by write: a key that
is there is overwritten in its place, a new one goes to the end as long as there is room, and else
the write is dropped. The two agree because a key that came too late once comes too late again: the
keys that are held never become fewer, so the room that it lacked is not there later either.

## Main results

* `keptKeys_concat`: what one more write does to the keys that are held.
* `HoldsWrites.setAttribute`, `HoldsWrites.applyAll`: one write, and all calls on a span.
* `attributes_of_writes`: the attributes of a span that was started and has not ended.
-/

namespace SpanFlow

/-! ## Cut values -/

/-- The first characters of a text, and all of them if there is no limit. -/
def firstChars (limit : Option Nat) (s : String) : String :=
  match limit with
  | none => s
  | some n => String.ofList (s.toList.take n)

/-- A value whose texts are cut, be it a text or a list of texts. Any other value stays. -/
def Value.cut (limit : Option Nat) : Value → Value
  | text s => text (firstChars limit s)
  | texts ss => texts (ss.map (firstChars limit))
  | v => v

/-- An attribute whose value is cut. -/
def Attribute.cut (limit : Option Nat) (a : Attribute) : Attribute := ⟨a.key, a.value.cut limit⟩

theorem truncateText_eq_firstChars (n : Nat) : truncateText n = firstChars (some n) := by
  funext s
  rw [truncateText, Text.truncated_eq_take, firstChars]

theorem Value.limited_eq_cut (limit : Option Nat) (v : Value) : v.limited limit = v.cut limit := by
  cases limit with
  | none =>
    have hKeeps : firstChars none = id := rfl
    cases v <;> simp [limited, cut, hKeeps]
  | some n => cases v <;> simp [limited, cut, truncate, truncateText_eq_firstChars]

theorem Attribute.limited_eq_cut (limit : Option Nat) (a : Attribute) :
    a.limited limit = a.cut limit := by
  rw [limited, cut, Value.limited_eq_cut]

theorem clampCount_eq (n : Nat) : clampCount n = min (2 ^ 32 - 1) n := Nat.min_comm n _

theorem clampCount_succ (n : Nat) : clampCount (clampCount n + 1) = clampCount (n + 1) := by
  rw [clampCount_eq, clampCount_eq, clampCount_eq]
  omega

/-! ## Writes -/

/-- The attributes that a call writes. -/
def SpanCall.writes : SpanCall → List Attribute
  | setAttributes attributes => attributes
  | _ => []

/-- The first distinct keys of writes, up to a limit. -/
def keptKeys (limit : Nat) (writes : List Attribute) : List String :=
  (writes.map Attribute.key).eraseDups.take limit

/-- The last write of a key. -/
def lastWrite? (key : String) (writes : List Attribute) : Option Attribute :=
  (writes.filter fun w => w.key = key).getLast?

section Distinct

variable {α : Type} [DecidableEq α]

theorem eraseDups_concat (xs : List α) (x : α) :
    (xs ++ [x]).eraseDups = if x ∈ xs then xs.eraseDups else xs.eraseDups ++ [x] := by
  have hSingle : [x].eraseDups = [x] := rfl
  rw [List.eraseDups_append]
  split <;> rename_i hx <;> simp [List.removeAll, hx, hSingle]

theorem nodup_eraseDups (xs : List α) : xs.eraseDups.Nodup := by
  induction xs using List.reverseRecOn with
  | nil => exact List.nodup_nil
  | append_singleton xs x ih =>
    rw [eraseDups_concat]
    split
    · exact ih
    · rename_i hNew
      rw [← List.concat_eq_append]
      exact ih.concat fun hMem => hNew (List.mem_eraseDups.1 hMem)

end Distinct

section Kept

variable {limit : Nat} {writes : List Attribute}

theorem nodup_keptKeys : (keptKeys limit writes).Nodup :=
  (nodup_eraseDups _).sublist (List.take_sublist _ _)

/-- Where there is room left, no key is missing. -/
theorem keptKeys_of_room (h : (keptKeys limit writes).length < limit) :
    keptKeys limit writes = (writes.map Attribute.key).eraseDups := by
  rw [keptKeys, List.length_take] at h
  exact List.take_of_length_le (by omega)

/-- One more write adds its key if that is new and there is room. -/
theorem keptKeys_concat (limit : Nat) (writes : List Attribute) (w : Attribute) :
    keptKeys limit (writes ++ [w]) =
      if w.key ∈ keptKeys limit writes ∨ limit ≤ (keptKeys limit writes).length then
        keptKeys limit writes
      else keptKeys limit writes ++ [w.key] := by
  have hKeys : (writes ++ [w]).map Attribute.key = writes.map Attribute.key ++ [w.key] := by simp
  by_cases hRoom : (keptKeys limit writes).length < limit
  -- With room left, every key that was written is held, so a new one is new to both lists.
  · have hAll := keptKeys_of_room hRoom
    have hMem : w.key ∈ keptKeys limit writes ↔ w.key ∈ writes.map Attribute.key := by
      rw [hAll, List.mem_eraseDups]
    rw [keptKeys, hKeys, eraseDups_concat]
    by_cases hSeen : w.key ∈ writes.map Attribute.key
    · rw [if_pos hSeen, if_pos (Or.inl (hMem.2 hSeen))]
      rfl
    · have hNot : ¬(w.key ∈ keptKeys limit writes ∨ limit ≤ (keptKeys limit writes).length) := by
        rintro (hKept | hFull)
        · exact hSeen (hMem.1 hKept)
        · omega
      rw [if_neg hSeen, if_neg hNot, ← hAll]
      exact List.take_of_length_le (by simp; omega)
  -- Without, the keys that are held fill the limit, and what comes behind them does not count.
  · have hFull : limit ≤ (writes.map Attribute.key).eraseDups.length := by
      rw [keptKeys, List.length_take] at hRoom
      omega
    rw [if_pos (Or.inr (by omega)), keptKeys, hKeys, eraseDups_concat]
    split
    · rfl
    · exact List.take_append_of_le_length hFull

theorem lastWrite?_concat (key : String) (writes : List Attribute) (w : Attribute) :
    lastWrite? key (writes ++ [w]) = if w.key = key then some w else lastWrite? key writes := by
  rw [lastWrite?, lastWrite?, List.filter_append]
  split <;> rename_i hKey <;> simp [hKey]

end Kept

namespace SpanRecord

/-! ## What a record holds of the writes -/

/-- A record that holds what these writes come to within its limits. -/
structure HoldsWrites (l : Limits) (writes : List Attribute) (r : SpanRecord) : Prop where
  /-- The keys are the first distinct ones, in the order of their first writes. -/
  keys : r.attributes.map Attribute.key = keptKeys l.attributes writes
  /-- Each attribute is the last write of its key, cut. -/
  last : ∀ a ∈ r.attributes, ∃ w, lastWrite? a.key writes = some w ∧ a = w.cut l.valueLength
  /-- The writes under other keys are counted. -/
  dropped : r.droppedAttributes =
    min (2 ^ 32 - 1) (writes.countP fun w => w.key ∉ keptKeys l.attributes writes)

variable {l : Limits} {writes : List Attribute} {r : SpanRecord} {w : Attribute}

theorem setAttribute_eq (l : Limits) (w : Attribute) (r : SpanRecord) :
    r.setAttribute l w =
      match r.attributes.findIdx? fun b => b.key == w.key with
      | some i => { r with attributes := r.attributes.set i (w.cut l.valueLength) }
      | none =>
        if r.attributes.length < l.attributes then
          { r with attributes := r.attributes ++ [w.cut l.valueLength] }
        else { r with droppedAttributes := clampCount (r.droppedAttributes + 1) } := by
  rw [setAttribute, put, Attribute.limited_eq_cut]
  rfl

namespace HoldsWrites

theorem started (l : Limits) (parent : SpanId) (name : String) (now : Timestamp) :
    HoldsWrites l [] (SpanRecord.started parent name now) where
  keys := by simp [SpanRecord.started, keptKeys]
  last := by simp [SpanRecord.started]
  dropped := rfl

theorem congr {r' : SpanRecord} (h : r.HoldsWrites l writes)
    (hAttributes : r'.attributes = r.attributes)
    (hDropped : r'.droppedAttributes = r.droppedAttributes) : r'.HoldsWrites l writes where
  keys := by rw [hAttributes, h.keys]
  last := by rw [hAttributes]; exact h.last
  dropped := by rw [hDropped, h.dropped]

section Write

variable (h : r.HoldsWrites l writes)
include h

theorem length_eq : r.attributes.length = (keptKeys l.attributes writes).length := by
  rw [← h.keys, List.length_map]

/-- A key that is there has its last write replaced, where it stands. -/
theorem overwrite {i : Nat} (hThere : r.attributes[i]?.map Attribute.key = some w.key) :
    HoldsWrites l (writes ++ [w])
      { r with attributes := r.attributes.set i (w.cut l.valueLength) } := by
  have hKey : (keptKeys l.attributes writes)[i]? = some w.key := by
    rw [← h.keys, List.getElem?_map, hThere]
  have hKept : keptKeys l.attributes (writes ++ [w]) = keptKeys l.attributes writes := by
    rw [keptKeys_concat, if_pos (Or.inl (List.mem_of_getElem? hKey))]
  constructor
  case keys =>
    obtain ⟨hLt, hEq⟩ := List.getElem?_eq_some_iff.1 hKey
    have hSame : (w.cut l.valueLength).key = (keptKeys l.attributes writes)[i] := hEq.symm
    rw [hKept, List.map_set, h.keys, hSame, List.set_getElem_self]
  case last =>
    intro a ha
    obtain ⟨j, hj⟩ := List.mem_iff_getElem?.1 ha
    rw [List.getElem?_set] at hj
    rw [lastWrite?_concat]
    by_cases hSame : i = j
    · rw [if_pos hSame] at hj
      obtain rfl : w.cut l.valueLength = a := by
        split at hj
        · exact Option.some.inj hj
        · cases hj
      exact ⟨w, if_pos rfl, rfl⟩
    · rw [if_neg hSame] at hj
      -- No key stands in two places, so the attribute at another place has another key.
      have hOther : w.key ≠ a.key := by
        intro hEq
        have hAgain : (keptKeys l.attributes writes)[j]? = some w.key := by
          rw [← h.keys, List.getElem?_map, hj, hEq]
          rfl
        have hLt := (List.getElem?_eq_some_iff.1 hKey).1
        exact hSame ((List.getElem?_inj hLt nodup_keptKeys).1 (hKey.trans hAgain.symm))
      rw [if_neg hOther]
      exact h.last a (List.mem_of_getElem? hj)
  case dropped =>
    rw [hKept, List.countP_append, List.countP_singleton,
      if_neg (by simpa using List.mem_of_getElem? hKey)]
    exact h.dropped

/-- A new key goes to the end if there is room. -/
theorem append (hNew : w.key ∉ keptKeys l.attributes writes)
    (hRoom : (keptKeys l.attributes writes).length < l.attributes) :
    HoldsWrites l (writes ++ [w])
      { r with attributes := r.attributes ++ [w.cut l.valueLength] } := by
  have hKept : keptKeys l.attributes (writes ++ [w]) = keptKeys l.attributes writes ++ [w.key] := by
    rw [keptKeys_concat, if_neg (by simpa [hNew] using hRoom)]
  have hSeen : ∀ x ∈ writes, x.key ∈ keptKeys l.attributes writes := by
    intro x hx
    rw [keptKeys_of_room hRoom, List.mem_eraseDups]
    exact List.mem_map_of_mem hx
  constructor
  case keys => rw [hKept, List.map_append, h.keys]; rfl
  case last =>
    intro a ha
    rw [lastWrite?_concat]
    rcases List.mem_append.1 ha with hOld | hLast
    · have hKey : a.key ∈ keptKeys l.attributes writes := by
        rw [← h.keys]
        exact List.mem_map_of_mem hOld
      have hOther : w.key ≠ a.key := fun hEq => hNew (hEq ▸ hKey)
      rw [if_neg hOther]
      exact h.last a hOld
    · obtain rfl := List.mem_singleton.1 hLast
      exact ⟨w, if_pos rfl, rfl⟩
  case dropped =>
    have hBefore : writes.countP (fun x => x.key ∉ keptKeys l.attributes writes) = 0 :=
      List.countP_eq_zero.2 fun x hx => by simpa using hSeen x hx
    have hAfter : (writes ++ [w]).countP
        (fun x => x.key ∉ keptKeys l.attributes (writes ++ [w])) = 0 := by
      refine List.countP_eq_zero.2 fun x hx => ?_
      rcases List.mem_append.1 hx with hOld | hLast
      · simp [hKept, hSeen x hOld]
      · simp [hKept, List.mem_singleton.1 hLast]
    rw [hAfter, ← hBefore]
    exact h.dropped

/-- A new key that finds no room is dropped and counted. -/
theorem drop (hNew : w.key ∉ keptKeys l.attributes writes)
    (hFull : l.attributes ≤ (keptKeys l.attributes writes).length) :
    HoldsWrites l (writes ++ [w])
      { r with droppedAttributes := clampCount (r.droppedAttributes + 1) } := by
  have hKept : keptKeys l.attributes (writes ++ [w]) = keptKeys l.attributes writes := by
    rw [keptKeys_concat, if_pos (Or.inr hFull)]
  constructor
  case keys => rw [hKept]; exact h.keys
  case last =>
    intro a ha
    have hKey : a.key ∈ keptKeys l.attributes writes := by
      rw [← h.keys]
      exact List.mem_map_of_mem ha
    have hOther : w.key ≠ a.key := fun hEq => hNew (hEq ▸ hKey)
    rw [lastWrite?_concat, if_neg hOther]
    exact h.last a ha
  case dropped =>
    have hCounted := h.dropped
    rw [← clampCount_eq] at hCounted
    rw [hKept, List.countP_append, List.countP_singleton, if_pos (by simpa using hNew),
      ← clampCount_eq, ← clampCount_succ (List.countP _ writes), ← hCounted]

/-- One write more: a key that is held gets the new value, and a new one is held if there is room.
-/
theorem setAttribute (w : Attribute) : (r.setAttribute l w).HoldsWrites l (writes ++ [w]) := by
  rw [setAttribute_eq]
  cases hFind : r.attributes.findIdx? fun b => b.key == w.key with
  | some i =>
    obtain ⟨hLt, hKey, -⟩ := List.findIdx?_eq_some_iff_getElem.1 hFind
    refine h.overwrite ?_
    rw [List.getElem?_eq_getElem hLt, Option.map_some, beq_iff_eq.1 hKey]
  | none =>
    have hNew : w.key ∉ keptKeys l.attributes writes := by
      rw [← h.keys]
      intro hMem
      obtain ⟨a, ha, hKey⟩ := List.mem_map.1 hMem
      simpa [hKey] using List.findIdx?_eq_none_iff.1 hFind a ha
    have hLength := h.length_eq
    dsimp only
    split
    · exact h.append hNew (by omega)
    · exact h.drop hNew (by omega)

end Write

theorem setAttributes (h : r.HoldsWrites l writes) (attributes : List Attribute) :
    (r.apply l (.setAttributes attributes)).HoldsWrites l (writes ++ attributes) := by
  induction attributes generalizing r writes with
  | nil =>
    rw [List.append_nil]
    exact h
  | cons a rest ih =>
    rw [List.append_cons]
    exact ih (h.setAttribute a)

theorem addEvent (h : r.HoldsWrites l writes) (name : String) (time : Timestamp)
    (attributes : List Attribute) : (r.addEvent l name time attributes).HoldsWrites l writes := by
  obtain ⟨_, _, hEq⟩ := exists_addEvent_eq l name time attributes r
  rw [hEq]
  exact h.congr rfl rfl

theorem addLink (h : r.HoldsWrites l writes) (context : SpanContext) (attributes : List Attribute) :
    (r.addLink l context attributes).HoldsWrites l writes := by
  obtain ⟨_, _, hEq⟩ := exists_addLink_eq l context attributes r
  rw [hEq]
  exact h.congr rfl rfl

/-- Of the calls on a span only those that write attributes make a difference. -/
theorem apply (h : r.HoldsWrites l writes) (c : SpanCall) :
    (r.apply l c).HoldsWrites l (writes ++ c.writes) := by
  have hNone : ∀ {r' : SpanRecord}, r'.HoldsWrites l writes → r'.HoldsWrites l (writes ++ []) := by
    intro r' h'
    rwa [List.append_nil]
  cases c with
  | setAttributes attributes => exact h.setAttributes attributes
  | addEvent name time attributes => exact hNone (h.addEvent name time attributes)
  | recordError message time => exact hNone (h.addEvent _ time _)
  | addLink context attributes => exact hNone (h.addLink context attributes)
  | setStatus status | rename name | finish time => exact hNone (h.congr rfl rfl)

/-- The calls on a span write in their order, whatever else they do. -/
theorem applyAll (h : r.HoldsWrites l writes) (calls : List SpanCall) :
    (r.applyAll l calls).HoldsWrites l (writes ++ calls.flatMap SpanCall.writes) := by
  induction calls generalizing r writes with
  | nil =>
    rw [List.flatMap_nil, List.append_nil]
    exact h
  | cons c rest ih =>
    rw [List.flatMap_cons, ← List.append_assoc]
    exact ih (h.apply c)

end HoldsWrites

end SpanRecord

namespace Telemetry

/-- The attributes that acts write to a span, in order. -/
def writesTo (id : Nat) (acts : List Act) : List Attribute :=
  (callsOn id acts).flatMap SpanCall.writes

/-- **First keys, last values.** A span that was started and has not ended holds the attributes that
the sampler wrote and those that were written since, under the limits that it was started with: of
each of the first distinct keys the last value, cut. It has counted all writes under other keys. -/
theorem attributes_of_writes {t : Telemetry} {tracer : Tracer} {name : String} {cx : Context}
    {p : Provider} (h : StartsRecording t tracer name cx p) {acts : List Act}
    (hLasts : Outlives (t.start tracer name cx).2 acts) :
    ∃ data, ((t.start tracer name cx).1.afterAll acts).dataOf? (t.start tracer name cx).2 =
        some data ∧
      data.toSpanRecord.HoldsWrites (limitsAtStart p)
        ((beginning p name cx).result.attributes ++
          writesTo (t.start tracer name cx).2 acts) := by
  obtain ⟨data, hData, hRecord⟩ := data_afterAll h hLasts
  refine ⟨data, hData, ?_⟩
  have hStarted := SpanRecord.HoldsWrites.started (limitsAtStart p) (beginning p name cx).parent
    name t.now
  have hWritten := hStarted.applyAll (.setAttributes (beginning p name cx).result.attributes ::
    callsOn (t.start tracer name cx).2 acts)
  rw [List.nil_append, List.flatMap_cons] at hWritten
  rw [hRecord]
  exact hWritten

/-- With room for two, the sampler's attribute is the first of them and is overwritten where it
stands; a key that finds no room is dropped twice. -/
theorem attributes_of_writes_crowded :
    let sampler : Sampler := .custom fun _ => ⟨.recordOnly, [⟨"a", .text "abcdef"⟩], .empty⟩
    let p : Provider := ⟨[], sampler, .counting 1 1,
      .inTurn [⟨2, 0, 0, 0, 0, some 3⟩, .standard], false, false⟩
    let t : Telemetry := ⟨[], [p], [], [], [], ⟨0⟩⟩
    let tracer : Tracer := ⟨"tracer", 0⟩
    let acts : List Act :=
      [.call 0 (.setAttributes [⟨"b", .int 1⟩, ⟨"c", .bool true⟩]), .start tracer "later" .root,
        .callActive ⟨.none, some 0⟩ (.setAttributes [⟨"a", .texts ["wxyz", ""]⟩]),
        .call 0 (.rename "renamed"), .call 0 (.setAttributes [⟨"c", .int 2⟩])]
    ∃ data, ((t.start tracer "span" .root).1.afterAll acts).dataOf? 0 = some data ∧
      data.attributes.map Attribute.key = ["a", "b"] ∧
      (∀ a ∈ data.attributes, a.key = "a" → a.value = .texts ["wxy", ""]) ∧
      data.droppedAttributes = 2 := by
  intro sampler p t tracer acts
  have hStarts : StartsRecording t tracer "span" .root p := ⟨rfl, rfl, nofun⟩
  obtain ⟨data, hData, hHolds⟩ :=
    attributes_of_writes hStarts (show Outlives 0 acts by decide)
  refine ⟨data, hData, hHolds.keys.trans (by decide), fun a ha hKey => ?_,
    hHolds.dropped.trans (by decide)⟩
  obtain ⟨w, hLast, hCut⟩ := hHolds.last a ha
  have hWrite : lastWrite? "a" ((beginning p "span" .root).result.attributes ++ writesTo 0 acts) =
      some ⟨"a", .texts ["wxyz", ""]⟩ := by decide
  rw [hKey] at hLast
  obtain rfl := Option.some.inj (hLast.symm.trans hWrite)
  rw [hCut]
  decide

end Telemetry

end SpanFlow
