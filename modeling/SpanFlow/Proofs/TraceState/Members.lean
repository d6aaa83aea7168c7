import Mathlib.Data.List.Dedup
import Mathlib.Data.List.Nodup
import SpanFlow.TraceState.Header

/-!
# The members of trace states

A trace state is made from pairs or from a header, and changed by putting a member in front and by
taking one out. `Reached` are the states that come of this in any number of steps. Their members
have valid keys and values and no key twice, and there is no empty list among them.

The operations look for a key once and stop at the first place where it stands. What they mean is
said by what they do to all members, and the two agree because no key stands in two places: taking
the first member of a key out is keeping those of other keys, and looking a key up is finding its
pair.

## Main results

* `without_eq_filter`: what taking a member out leaves, where no key stands twice.
* `collect_eq`: what becomes of pairs, and which error there is.
* `Reached.wellFormed`: every state that can be reached is well-formed.
* `reached_members`: the operations on states that can be reached.
-/

namespace SpanFlow.TraceState

/-! ## Checking pairs -/

/-- Whether the key and the value of a pair may stand in a trace state. -/
def isValid (p : String × String) : Bool := validKey p.1 && validValue p.2

/-- What is wrong with a pair that is not valid: its key, or else its value. -/
def faultOf (p : String × String) : TraceStateError :=
  if validKey p.1 then .value p.2 else .key p.1

theorem check_eq (key value : String) :
    check key value = if isValid (key, value) then .ok () else .error (faultOf (key, value)) := by
  by_cases hKey : validKey key = true
  · by_cases hValue : validValue value = true <;> simp [check, isValid, faultOf, hKey, hValue]
  · simp [check, isValid, faultOf, hKey]

/-! ## Lists of members -/

/-- Members that may stand together: each is valid, and no two have the same key. -/
structure Proper (members : List (String × String)) : Prop where
  valid : ∀ m ∈ members, isValid m = true
  nodup_keys : (members.map Prod.fst).Nodup

theorem proper_nil : Proper [] := ⟨by simp, by simp⟩

/-- The members that do not have the key. -/
def others (key : String) (members : List (String × String)) : List (String × String) :=
  members.filter fun m => m.1 ≠ key

theorem mem_others {key : String} {members : List (String × String)} {m : String × String} :
    m ∈ others key members ↔ m ∈ members ∧ m.1 ≠ key := by
  simp [others]

/-- The first member of a key is the only one, if no key stands twice. -/
theorem without_eq_filter {key : String} {members : List (String × String)}
    (h : (members.map Prod.fst).Nodup) : without key members = others key members := by
  induction members with
  | nil => rfl
  | cons m rest ih =>
    obtain ⟨hHead, hTail⟩ := List.nodup_cons.1 h
    by_cases hKey : m.1 = key
    · have hRest : others key rest = rest := by
        refine List.filter_eq_self.2 fun x hx => ?_
        have hNe : x.1 ≠ key := fun hx' =>
          hHead (List.mem_map.2 ⟨x, hx, hx'.trans hKey.symm⟩)
        simpa using hNe
      simpa [without, others, hKey] using hRest.symm
    · have hRest := ih hTail
      simp only [without, others] at hRest ⊢
      rw [List.eraseP_cons_of_neg (by simpa using hKey), hRest,
        List.filter_cons_of_pos (by simpa using hKey)]

namespace Proper

variable {members : List (String × String)} {key value : String}

theorem of_sublist {fewer : List (String × String)} (h : Proper members)
    (hLess : fewer.Sublist members) : Proper fewer where
  valid m hm := h.valid m (hLess.subset hm)
  nodup_keys := h.nodup_keys.sublist (hLess.map Prod.fst)

theorem others (h : Proper members) (key : String) : Proper (others key members) :=
  h.of_sublist List.filter_sublist

theorem cons (h : Proper members) (hValid : isValid (key, value) = true)
    (hFree : key ∉ members.map Prod.fst) : Proper ((key, value) :: members) where
  valid m hm := by
    rcases List.mem_cons.1 hm with rfl | hm
    · exact hValid
    · exact h.valid m hm
  nodup_keys := List.nodup_cons.2 ⟨hFree, h.nodup_keys⟩

end Proper

theorem key_notMem_others (key : String) (members : List (String × String)) :
    key ∉ (others key members).map Prod.fst := by
  intro hMem
  obtain ⟨m, hm, hKey⟩ := List.mem_map.1 hMem
  exact (mem_others.1 hm).2 hKey

/-- Looking a key up finds the pair of it, if no key stands twice. -/
theorem lookup_eq_some_iff {members : List (String × String)} {key value : String}
    (h : (members.map Prod.fst).Nodup) :
    members.lookup key = some value ↔ (key, value) ∈ members := by
  induction members with
  | nil => simp
  | cons m rest ih =>
    obtain ⟨hHead, hTail⟩ := List.nodup_cons.1 h
    obtain ⟨k, v⟩ := m
    by_cases hKey : key = k
    · subst hKey
      have hNot : (key, value) ∉ rest := fun hMem =>
        hHead (List.mem_map.2 ⟨_, hMem, rfl⟩)
      simp [hNot, eq_comm]
    · have hNe : (key == k) = false := by simpa using hKey
      simp [List.lookup_cons, hNe, ih hTail, hKey]

/-! ## Collecting pairs -/

/-- Of each key the last pair, in the order in which these stand. -/
def latest : List (String × String) → List (String × String)
  | [] => []
  | p :: rest => if p.1 ∈ rest.map Prod.fst then latest rest else p :: latest rest

theorem keys_latest (pairs : List (String × String)) :
    (latest pairs).map Prod.fst = (pairs.map Prod.fst).dedup := by
  induction pairs with
  | nil => rfl
  | cons p rest ih =>
    rw [latest, List.map_cons, List.dedup_cons]
    split
    · exact ih
    · rw [List.map_cons, ih]

theorem latest_sublist (pairs : List (String × String)) : (latest pairs).Sublist pairs := by
  induction pairs with
  | nil => exact .slnil
  | cons p rest ih =>
    rw [latest]
    split
    · exact ih.cons p
    · exact ih.cons_cons p

/-- The value of a key is the last one, which is the first from behind. -/
theorem lookup_latest (pairs : List (String × String)) (key : String) :
    (latest pairs).lookup key = pairs.reverse.lookup key := by
  induction pairs with
  | nil => rfl
  | cons p rest ih =>
    obtain ⟨k, v⟩ := p
    rw [latest, List.reverse_cons, List.lookup_append, ← ih]
    by_cases hKey : key = k
    · subst hKey
      have hIff : ((latest rest).lookup key).isSome = true ↔ key ∈ rest.map Prod.fst := by
        rw [← List.mem_dedup, ← keys_latest, List.lookup_isSome_iff, List.mem_map]
        simp only [beq_iff_eq, eq_comm (a := key)]
      split
      · rename_i hMem
        rw [Option.or_of_isSome (hIff.2 hMem)]
      · rename_i hFree
        have hNone : (latest rest).lookup key = none :=
          Option.not_isSome_iff_eq_none.1 fun hSome => hFree (hIff.1 hSome)
        simp [hNone]
    · have hNone : [(k, v)].lookup key = none := by simpa [List.lookup_eq_none_iff] using hKey
      rw [hNone, Option.or_none]
      split
      · rfl
      · rw [List.lookup_cons, beq_false_of_ne hKey]

/-- What collecting comes to: the first pair that is not valid is an error. If there is none, the
last pair of each key stands behind the members whose keys none of the pairs has. -/
theorem collect_eq (pairs : List (String × String)) {members : List (String × String)}
    (h : (members.map Prod.fst).Nodup) :
    collect members pairs =
      match pairs.find? fun p => !isValid p with
      | some p => .error (faultOf p)
      | none =>
        .ok ((members.filter fun m => m.1 ∉ pairs.map Prod.fst) ++ latest pairs) := by
  induction pairs generalizing members with
  | nil => simp [collect, latest]
  | cons p rest ih =>
    obtain ⟨key, value⟩ := p
    rw [collect, check_eq]
    by_cases hValid : isValid (key, value) = true
    · have hNodup : ((others key members ++ [(key, value)]).map Prod.fst).Nodup := by
        rw [List.map_append]
        exact (h.sublist (List.filter_sublist.map Prod.fst)).append (List.nodup_singleton key)
          (List.disjoint_singleton.2 (key_notMem_others key members))
      simp only [hValid, if_true, without_eq_filter h, ih hNodup, Bool.not_true, Bool.false_eq_true,
        not_false_eq_true, List.find?_cons_of_neg]
      cases rest.find? fun p => !isValid p with
      | some p => rfl
      | none =>
        -- The new pair is kept or dropped just as `latest` does.
        have hOthers : (others key members).filter (fun m => m.1 ∉ rest.map Prod.fst) =
            members.filter fun m => m.1 ∉ key :: rest.map Prod.fst := by
          rw [others, List.filter_filter]
          refine List.filter_congr fun m _ => ?_
          by_cases hSame : m.1 = key <;> simp [hSame]
        rw [List.filter_append, hOthers, latest, List.map_cons, List.append_assoc]
        by_cases hLater : key ∈ rest.map Prod.fst <;> simp [hLater]
    · simp [hValid]

theorem proper_latest {pairs : List (String × String)} (h : ∀ p ∈ pairs, isValid p = true) :
    Proper (latest pairs) where
  valid m hm := h m ((latest_sublist pairs).subset hm)
  nodup_keys := by
    rw [keys_latest]
    exact List.nodup_dedup _

/-- What pairs make. -/
theorem ofPairs_eq (pairs : List (String × String)) :
    ofPairs pairs =
      match pairs.find? fun p => !isValid p with
      | some p => .error (faultOf p)
      | none => .ok (ofEntries (latest pairs)) := by
  rw [ofPairs, collect_eq pairs proper_nil.nodup_keys]
  cases pairs.find? fun p => !isValid p <;> rfl

/-! ## Well-formed states -/

/-- A state whose members are proper, and which has no empty list of them. -/
structure WellFormed (ts : TraceState) : Prop where
  proper : Proper ts.entries
  members?_eq_none_iff : ts.members? = none ↔ ts.entries = []

theorem wellFormed_ofEntries {members : List (String × String)} (h : Proper members) :
    WellFormed (ofEntries members) where
  proper := by
    rw [entries_ofEntries]
    exact h
  members?_eq_none_iff := by cases members <;> simp [ofEntries, empty, entries]

theorem WellFormed.ofEntries_entries {ts : TraceState} (h : WellFormed ts) :
    ofEntries ts.entries = ts := by
  obtain ⟨_ | _ | ⟨m, rest⟩⟩ := ts
  · rfl
  · exact absurd (h.members?_eq_none_iff.2 rfl) (by simp)
  · rfl

/-- The derived equality is that of the members. -/
theorem WellFormed.eq_iff {a b : TraceState} (ha : WellFormed a) (hb : WellFormed b) :
    a = b ↔ a.entries = b.entries := by
  rw [← ofEntries_eq_iff, ha.ofEntries_entries, hb.ofEntries_entries]

section Operations

variable {ts : TraceState} (h : WellFormed ts)
include h

theorem WellFormed.insert_eq (key value : String) :
    ts.insert key value =
      if isValid (key, value) then .ok (ofEntries ((key, value) :: others key ts.entries))
      else .error (faultOf (key, value)) := by
  rw [insert, check_eq, without_eq_filter h.proper.nodup_keys]
  split <;> rfl

theorem WellFormed.erase_eq (key : String) :
    ts.erase key =
      if validKey key then .ok (ofEntries (others key ts.entries)) else .error (.key key) := by
  rw [erase, without_eq_filter h.proper.nodup_keys]

theorem WellFormed.get?_eq_some_iff (key value : String) :
    ts.get? key = some value ↔ (key, value) ∈ ts.entries :=
  lookup_eq_some_iff h.proper.nodup_keys

end Operations

/-! ## States that can be reached -/

/-- The states that come of making and changing states in any number of steps. -/
inductive Reached : TraceState → Prop
  | empty : Reached empty
  | ofPairs {pairs : List (String × String)} {ts : TraceState} :
    ofPairs pairs = .ok ts → Reached ts
  | parse {text : String} {ts : TraceState} : parse text = .ok ts → Reached ts
  | insert {ts made : TraceState} {key value : String} : Reached ts →
    ts.insert key value = .ok made → Reached made
  | erase {ts made : TraceState} {key : String} : Reached ts → ts.erase key = .ok made →
    Reached made

theorem wellFormed_ofPairs {pairs : List (String × String)} {ts : TraceState}
    (h : ofPairs pairs = .ok ts) : WellFormed ts := by
  rw [ofPairs_eq] at h
  cases hFind : pairs.find? fun p => !isValid p with
  | some p => simp [hFind] at h
  | none =>
    simp only [hFind, Except.ok.injEq] at h
    have hValid : ∀ p ∈ pairs, isValid p = true := by simpa using hFind
    exact h ▸ wellFormed_ofEntries (proper_latest hValid)

/-- What a header is read as is made from pairs. -/
theorem wellFormed_parse {text : String} {ts : TraceState} (h : parse text = .ok ts) :
    WellFormed ts := by
  unfold parse at h
  split at h
  · cases h
  · exact wellFormed_ofPairs h

/-- Every state that can be reached is well-formed. -/
theorem Reached.wellFormed {ts : TraceState} (h : Reached ts) : WellFormed ts := by
  induction h with
  | empty => exact wellFormed_ofEntries proper_nil
  | ofPairs hMade => exact wellFormed_ofPairs hMade
  | parse hMade => exact wellFormed_parse hMade
  | @insert ts made key value _ hMade ih =>
    rw [ih.insert_eq] at hMade
    split at hMade
    · rename_i hValid
      cases hMade
      exact wellFormed_ofEntries
        ((ih.proper.others key).cons hValid (key_notMem_others key ts.entries))
    · cases hMade
  | @erase ts made key _ hMade ih =>
    rw [ih.erase_eq] at hMade
    split at hMade
    · cases hMade
      exact wellFormed_ofEntries (ih.proper.others key)
    · cases hMade

/-- **What trace states hold.** A state that can be reached has valid members and no key twice, and
is told from others by its members alone. Putting a member in leaves the others behind it in their
order, taking one out leaves the others, and looking a key up finds what it is paired with. Pairs
make a state unless one of them is not valid; of each key the state has the last value, in the place
where that one stands among the pairs. -/
theorem reached_members {ts : TraceState} (h : Reached ts) :
    ((ts.entries.map Prod.fst).Nodup ∧
      (∀ m ∈ ts.entries, validKey m.1 = true ∧ validValue m.2 = true) ∧
      (ts.members? = none ↔ ts.entries = []) ∧
      ∀ other, Reached other → (ts = other ↔ ts.entries = other.entries)) ∧
    (∀ key value,
      ((∃ made, ts.insert key value = .ok made) ↔
        validKey key = true ∧ validValue value = true) ∧
      ∀ made, ts.insert key value = .ok made →
        made.entries = (key, value) :: ts.entries.filter fun m => m.1 ≠ key) ∧
    (∀ key,
      ((∃ made, ts.erase key = .ok made) ↔ validKey key = true) ∧
      ∀ made, ts.erase key = .ok made → made.entries = ts.entries.filter fun m => m.1 ≠ key) ∧
    (∀ key value, ts.get? key = some value ↔ (key, value) ∈ ts.entries) ∧
    ∀ pairs,
      (∀ p, pairs.find? (fun p => !(validKey p.1 && validValue p.2)) = some p →
        ofPairs pairs = .error (if validKey p.1 then .value p.2 else .key p.1)) ∧
      (pairs.find? (fun p => !(validKey p.1 && validValue p.2)) = none →
        ∃ made, ofPairs pairs = .ok made ∧
          made.entries.map Prod.fst = (pairs.map Prod.fst).dedup ∧
          ∀ key, made.get? key = pairs.reverse.lookup key) := by
  have hForm := h.wellFormed
  refine ⟨⟨hForm.proper.nodup_keys, fun m hm => ?_, hForm.members?_eq_none_iff, fun other hOther =>
    hForm.eq_iff hOther.wellFormed⟩, fun key value => ?_, fun key => ?_, hForm.get?_eq_some_iff,
    fun pairs => ⟨fun p hFind => ?_, fun hFind => ?_⟩⟩
  · simpa [isValid] using hForm.proper.valid m hm
  · -- The key is checked before the value, but both have to be valid.
    rw [hForm.insert_eq]
    by_cases hValid : isValid (key, value) = true
    · rw [if_pos hValid]
      refine ⟨⟨fun _ => by simpa [isValid] using hValid, fun _ => ⟨_, rfl⟩⟩, fun made hMade => ?_⟩
      cases hMade
      exact entries_ofEntries _
    · rw [if_neg hValid]
      exact ⟨⟨fun ⟨_, hMade⟩ => (nomatch hMade), fun hBoth => absurd (by simpa [isValid]) hValid⟩,
        fun _ hMade => nomatch hMade⟩
  · rw [hForm.erase_eq]
    by_cases hKey : validKey key = true
    · rw [if_pos hKey]
      refine ⟨⟨fun _ => hKey, fun _ => ⟨_, rfl⟩⟩, fun made hMade => ?_⟩
      cases hMade
      exact entries_ofEntries _
    · rw [if_neg hKey]
      exact ⟨⟨fun ⟨_, hMade⟩ => (nomatch hMade), fun hOk => absurd hOk hKey⟩,
        fun _ hMade => nomatch hMade⟩
  · have hMade := ofPairs_eq pairs
    simp only [isValid, hFind] at hMade
    exact hMade
  · have hMade := ofPairs_eq pairs
    simp only [isValid, hFind] at hMade
    refine ⟨_, hMade, ?_, fun key => ?_⟩
    · rw [entries_ofEntries, keys_latest]
    · rw [get?, entries_ofEntries, lookup_latest]

/-- A repeated key stands where it was last, and at the front once it is put in anew. -/
theorem reached_members_repeated :
    Reached ⟨some [("b", "4"), ("a", "2")]⟩ ∧
      ((⟨some [("b", "4"), ("a", "2")]⟩ : TraceState).get? "b" = some "4") ∧
      ∃ made, ofPairs [("b", "1"), ("a", "2"), ("b", "3")] = .ok made ∧
        made.get? "b" = some "3" ∧ made.entries.map Prod.fst = ["a", "b"] := by
  have hPairs : ofPairs [("b", "1"), ("a", "2"), ("b", "3")] =
      .ok ⟨some [("a", "2"), ("b", "3")]⟩ := by decide
  have hReached : Reached ⟨some [("b", "4"), ("a", "2")]⟩ :=
    @Reached.insert _ _ "b" "4" (.ofPairs hPairs) (by decide)
  obtain ⟨-, -, -, hGet, hMade⟩ := reached_members hReached
  refine ⟨hReached, (hGet "b" "4").2 (by decide), ?_⟩
  obtain ⟨made, hOk, hKeys, hLast⟩ :=
    (hMade [("b", "1"), ("a", "2"), ("b", "3")]).2 (by decide)
  exact ⟨made, hOk, hLast "b", hKeys⟩

end SpanFlow.TraceState
