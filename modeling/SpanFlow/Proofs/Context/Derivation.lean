import Mathlib.Data.Finset.Card
import Mathlib.Data.Finset.Dedup
import SpanFlow.Context.Basic
import SpanFlow.Proofs.Context.Entries

/-!
# Chains of derivations

A context is what a sequence of bindings made of the root: texts under keys, shared allocations,
spans, identities of spans elsewhere. Such a sequence denotes a finite map, in which the last
binding of a key counts. This module shows that the context agrees with that map in everything that
can be asked of it, however many keys there are and in whatever order they come.

Binding an allocation to a key that has this very allocation already gives back the context itself.
That agrees with the map because an allocation holds one value, which `Coherent` says of a sequence.

## Main results

* `apply_cases`: a derivation binds its key anew, or finds it bound to the same allocation.
* `wellFormed_apply`: every derivation keeps the entries of a context well formed.
* `denotes_derived`: the context made by a sequence of bindings agrees with the map it denotes.
-/

namespace SpanFlow

/-- The text in an allocation, if it holds one. -/
def Binding.text? (b : Binding) : Option String :=
  match b.content with
  | .text s => some s
  | .span _ => none

/-- The span in an allocation, if it holds one. -/
def Binding.span? (b : Binding) : Option ActiveSpan :=
  match b.content with
  | .text _ => none
  | .span s => some s

namespace Context

/-! ## Keys and bindings of one context -/

/-- The keys of a context, in the order in which they were first bound. -/
def keys (cx : Context) : List Nat :=
  match cx.instance? with
  | none => []
  | some x => x.entries.keys

/-- Whether a context has values, all of them in slots. -/
def isInline (cx : Context) : Bool := cx.instance?.any fun x => x.entries.isInline

/-- Whether a context has values, in a list. -/
def isSpilled (cx : Context) : Bool := cx.instance?.any fun x => !x.entries.isInline

/-- A context whose entries, if it has any, are as the library builds them. -/
def WellFormed (cx : Context) : Prop := ∀ x, cx.instance? = some x → x.entries.WellFormed

theorem wellFormed_root : root.WellFormed := fun _ h => nomatch h

theorem wellFormed_derive {cx : Context} (h : cx.WellFormed) (id key : Nat) (b : Binding) :
    (cx.derive id key b).WellFormed := by
  intro x hx
  unfold derive at hx
  split at hx
  · obtain rfl := Option.some.inj hx
    exact Entries.wellFormed_single key b
  · rename_i old hOld
    obtain rfl := Option.some.inj hx
    exact Entries.wellFormed_insert (h old hOld) key b

theorem binding?_derive {cx : Context} (h : cx.WellFormed) (id key other : Nat) (b : Binding) :
    (cx.derive id key b).binding? other = if key = other then some b else cx.binding? other := by
  cases hOld : cx.instance? with
  | none => simpa [derive, binding?, hOld] using Entries.get?_single key other b
  | some old =>
    simpa [derive, binding?, hOld] using Entries.get?_insert (h old hOld).laidOut key other b

theorem binding?_derive_self (cx : Context) (id key : Nat) (b : Binding) :
    (cx.derive id key b).binding? key = some b := by
  cases hOld : cx.instance? with
  | none => simp [derive, binding?, hOld, Entries.get?_single]
  | some old => simpa [derive, binding?, hOld] using Entries.get?_insert_self old.entries key b

theorem keys_derive {cx : Context} (h : cx.WellFormed) (id key : Nat) (b : Binding) :
    (cx.derive id key b).keys = if key ∈ cx.keys then cx.keys else cx.keys ++ [key] := by
  cases hOld : cx.instance? with
  | none => simp [derive, keys, hOld, Entries.keys, Entries.toList_single]
  | some old =>
    simpa [derive, keys, hOld] using Entries.keys_insert (h old hOld).laidOut key b

theorem nodup_keys {cx : Context} (h : cx.WellFormed) : cx.keys.Nodup := by
  cases hOld : cx.instance? with
  | none => simp [keys, hOld]
  | some old => simpa [keys, hOld] using (h old hOld).nodup_keys

theorem size_eq_length_keys {cx : Context} (h : cx.WellFormed) : cx.size = cx.keys.length := by
  cases hOld : cx.instance? with
  | none => simp [size, keys, hOld]
  | some old => simpa [size, keys, hOld] using Entries.size_eq_length_keys (h old hOld).laidOut

theorem text?_eq_bind (cx : Context) (key : Key) :
    cx.text? key = (cx.binding? key.id).bind Binding.text? := by
  unfold text?
  cases cx.binding? key.id with
  | none => rfl
  | some b => obtain ⟨_, _ | _⟩ := b <;> rfl

theorem activeSpan?_eq_bind (cx : Context) :
    cx.activeSpan? = (cx.binding? spanKey).bind Binding.span? := by
  unfold activeSpan?
  cases cx.binding? spanKey with
  | none => rfl
  | some b => obtain ⟨_, _ | _⟩ := b <;> rfl

/-- A context that is handed a span carries it. -/
theorem activeSpan?_withSpan (cx : Context) (id : Nat) (s : ActiveSpan) :
    (cx.withSpan id s).activeSpan? = some s := by
  simp [activeSpan?, withSpan, withValue, binding?_derive_self]

/-- What carries the identity of a span carries that identity. -/
theorem spanContext_withSpan (cx : Context) (id : Nat) (s : ActiveSpan) :
    (cx.withSpan id s).spanContext = s.context := by
  simp [spanContext, activeSpan, activeSpan?, withSpan, withValue, binding?_derive_self]

theorem mem_keys_of_binding? {cx : Context} {key : Nat} {b : Binding}
    (h : cx.binding? key = some b) : key ∈ cx.keys := by
  cases hOld : cx.instance? with
  | none => simp [binding?, hOld] at h
  | some old =>
    simp only [binding?, hOld, Option.bind_some, Entries.get?, Option.map_eq_some_iff] at h
    obtain ⟨e, hFind, _⟩ := h
    have hKey : e.key = key := by simpa using List.find?_some hFind
    have hMem : e.key ∈ old.entries.keys := List.mem_map_of_mem (List.mem_of_find?_eq_some hFind)
    simpa [keys, hOld, hKey] using hMem

theorem isInline_iff {cx : Context} (h : cx.WellFormed) :
    cx.isInline = true ↔ cx.keys ≠ [] ∧ cx.keys.length ≤ inlineCapacity := by
  cases hOld : cx.instance? with
  | none => simp [isInline, keys, hOld]
  | some old =>
    have hLaid := (h old hOld).laidOut
    simp [isInline, keys, hOld, Entries.isInline_iff hLaid, Entries.keys_ne_nil hLaid]

theorem isSpilled_iff {cx : Context} (h : cx.WellFormed) :
    cx.isSpilled = true ↔ inlineCapacity < cx.keys.length := by
  cases hOld : cx.instance? with
  | none => simp [isSpilled, keys, hOld]
  | some old =>
    have hLaid := (h old hOld).laidOut
    simp only [isSpilled, keys, hOld, Option.any_some, Bool.not_eq_true', ← Bool.not_eq_true,
      Entries.isInline_iff hLaid, Nat.not_le]

/-! ## Derivations -/

/-- What makes one context from another: a new value under a key, a value that was allocated before,
a span, or the identity of a span that lives elsewhere. -/
inductive Derivation where
  | value (id key : Nat) (content : Content)
  | shared (id key : Nat) (b : Binding)
  | span (id : Nat) (s : ActiveSpan)
  | remote (id : Nat) (sc : SpanContext)
  deriving DecidableEq

namespace Derivation

/-- The context that a derivation makes. -/
def apply (cx : Context) : Derivation → Context
  | value id key content => cx.withValue id key content
  | shared id key b => cx.withShared id key b
  | span id s => cx.withSpan id s
  | remote id sc => cx.withRemote id sc

/-- The number for the new instance. -/
def id : Derivation → Nat
  | value id _ _ | shared id _ _ | span id _ | remote id _ => id

/-- The key that is bound. -/
def key : Derivation → Nat
  | value _ key _ | shared _ key _ => key
  | span _ _ | remote _ _ => spanKey

/-- What the key is bound to. A new value has an allocation of its own. -/
def binding : Derivation → Binding
  | value id _ content => ⟨id, content⟩
  | shared _ _ b => b
  | span id s => ⟨id, .span s⟩
  | remote id sc => ⟨id, .span ⟨sc, none⟩⟩

/-- A derivation binds its key anew, unless it finds the key bound to the very allocation that it
would bind it to. -/
theorem apply_cases (cx : Context) (d : Derivation) :
    d.apply cx = cx.derive d.id d.key d.binding ∨
      d.apply cx = cx ∧
        ∃ old, cx.binding? d.key = some old ∧ old.allocation = d.binding.allocation := by
  cases d with
  | shared id key b =>
    show cx.withShared id key b = _ ∨ cx.withShared id key b = cx ∧ _
    unfold withShared
    cases hOld : cx.binding? key with
    | none => exact .inl rfl
    | some old =>
      by_cases hSame : old.allocation = b.allocation
      · exact .inr ⟨if_pos hSame, old, hOld, hSame⟩
      · exact .inl (if_neg hSame)
  | value id key content => exact .inl rfl
  | span id s => exact .inl rfl
  | remote id sc => exact .inl rfl

/-- Every derivation keeps the entries of a context well formed. -/
theorem wellFormed_apply {cx : Context} (h : cx.WellFormed) (d : Derivation) :
    (d.apply cx).WellFormed := by
  rcases apply_cases cx d with hNew | ⟨hSame, _⟩
  · rw [hNew]
    exact wellFormed_derive h d.id d.key d.binding
  · rwa [hSame]

theorem keys_apply {cx : Context} (h : cx.WellFormed) (d : Derivation) :
    (d.apply cx).keys = if d.key ∈ cx.keys then cx.keys else cx.keys ++ [d.key] := by
  rcases apply_cases cx d with hNew | ⟨hSame, old, hOld, _⟩
  · rw [hNew, keys_derive h]
  · rw [hSame, if_pos (mem_keys_of_binding? hOld)]

/-- A derivation binds its key and no other, provided that an allocation which the key has already
holds the value that the derivation states. -/
theorem binding?_apply {cx : Context} (h : cx.WellFormed) (d : Derivation)
    (hOne : ∀ old, cx.binding? d.key = some old →
      old.allocation = d.binding.allocation → old = d.binding) (k : Nat) :
    (d.apply cx).binding? k = if d.key = k then some d.binding else cx.binding? k := by
  rcases apply_cases cx d with hNew | ⟨hSame, old, hOld, hAllocation⟩
  · rw [hNew, binding?_derive h]
  · rw [hSame]
    by_cases hKey : d.key = k
    · rw [if_pos hKey, ← hKey, hOld, hOne old hOld hAllocation]
    · rw [if_neg hKey]

end Derivation

/-! ## The map that a sequence of bindings denotes -/

/-- The context that a sequence of bindings makes of the root. -/
def derived (ds : List Derivation) : Context := ds.foldl Derivation.apply .root

/-- The last binding of a key. -/
def last? (ds : List Derivation) (k : Nat) : Option Binding :=
  (ds.reverse.find? fun d => d.key == k).map Derivation.binding

/-- The keys that are bound. -/
def boundKeys (ds : List Derivation) : Finset Nat := (ds.map Derivation.key).toFinset

/-- An allocation holds one value, however often it is bound. -/
def Coherent (ds : List Derivation) : Prop :=
  ∀ d ∈ ds, ∀ e ∈ ds, d.binding.allocation = e.binding.allocation → d.binding = e.binding

theorem derived_append (ds : List Derivation) (d : Derivation) :
    derived (ds ++ [d]) = d.apply (derived ds) := by
  simp [derived]

theorem last?_append (ds : List Derivation) (d : Derivation) (k : Nat) :
    last? (ds ++ [d]) k = if d.key = k then some d.binding else last? ds k := by
  by_cases h : d.key = k <;> simp [last?, h]

theorem exists_mem_of_last? {ds : List Derivation} {k : Nat} {b : Binding}
    (h : last? ds k = some b) : ∃ d ∈ ds, d.binding = b := by
  obtain ⟨d, hFind, hBinding⟩ := Option.map_eq_some_iff.1 h
  exact ⟨d, List.mem_reverse.1 (List.mem_of_find?_eq_some hFind), hBinding⟩

theorem wellFormed_derived (ds : List Derivation) : (derived ds).WellFormed := by
  induction ds using List.reverseRecOn with
  | nil => exact wellFormed_root
  | append_singleton ds d ih =>
    rw [derived_append]
    exact d.wellFormed_apply ih

theorem toFinset_keys_derived (ds : List Derivation) :
    (derived ds).keys.toFinset = boundKeys ds := by
  induction ds using List.reverseRecOn with
  | nil => rfl
  | append_singleton ds d ih =>
    have hKeys := d.keys_apply (wellFormed_derived ds)
    rw [derived_append, hKeys, boundKeys, List.map_append, List.toFinset_append, ← boundKeys, ← ih]
    by_cases hMem : d.key ∈ (derived ds).keys
    · simp [hMem]
    · simp [hMem, List.toFinset_append]

theorem length_keys_derived (ds : List Derivation) :
    (derived ds).keys.length = (boundKeys ds).card := by
  rw [← toFinset_keys_derived,
    List.toFinset_card_of_nodup (nodup_keys (wellFormed_derived ds))]

theorem keys_derived_eq_nil_iff (ds : List Derivation) : (derived ds).keys = [] ↔ ds = [] := by
  rw [← List.toFinset_eq_empty_iff, toFinset_keys_derived, boundKeys, List.toFinset_eq_empty_iff,
    List.map_eq_nil_iff]

/-- By induction on the sequence: the last binding is the one that counts, and one that finds its
allocation bound already agrees with the binding that did so. -/
theorem binding?_derived {ds : List Derivation} (h : Coherent ds) (k : Nat) :
    (derived ds).binding? k = last? ds k := by
  induction ds using List.reverseRecOn generalizing k with
  | nil => rfl
  | append_singleton ds d ih =>
    have hPrefix : Coherent ds := fun a ha b hb =>
      h a (List.mem_append_left _ ha) b (List.mem_append_left _ hb)
    have hOne : ∀ old, (derived ds).binding? d.key = some old →
        old.allocation = d.binding.allocation → old = d.binding := by
      intro old hOld hAllocation
      rw [ih hPrefix] at hOld
      obtain ⟨e, he, rfl⟩ := exists_mem_of_last? hOld
      exact h e (List.mem_append_left _ he) d (by simp) hAllocation
    rw [derived_append, d.binding?_apply (wellFormed_derived ds) hOne, last?_append, ih hPrefix]

/-- What it is for a context to be the finite map that a sequence of bindings denotes. -/
structure Denotes (cx : Context) (ds : List Derivation) : Prop where
  binding?_eq : ∀ k, cx.binding? k = last? ds k
  text?_eq : ∀ key : Key, cx.text? key = (last? ds key.id).bind Binding.text?
  activeSpan?_eq : cx.activeSpan? = (last? ds spanKey).bind Binding.span?
  size_eq : cx.size = (boundKeys ds).card
  isEmpty_iff : cx.isEmpty = true ↔ ds = []
  wellFormed : cx.WellFormed
  isInline_iff : cx.isInline = true ↔ ds ≠ [] ∧ (boundKeys ds).card ≤ inlineCapacity
  isSpilled_iff : cx.isSpilled = true ↔ inlineCapacity + 1 ≤ (boundKeys ds).card

/-- **A context is a finite map.** The context made by a sequence of bindings agrees with the map
that the sequence denotes, and every single derivation keeps the entries well formed. -/
theorem denotes_derived (ds : List Derivation) (h : Coherent ds) :
    Denotes (derived ds) ds ∧
      ∀ (cx : Context) (d : Derivation), cx.WellFormed → (d.apply cx).WellFormed := by
  have hWF := wellFormed_derived ds
  have hSize : (derived ds).size = (boundKeys ds).card := by
    rw [size_eq_length_keys hWF, length_keys_derived]
  refine ⟨⟨binding?_derived h, fun key => ?_, ?_, hSize, ?_, hWF, ?_, ?_⟩,
    fun cx d hcx => d.wellFormed_apply hcx⟩
  · rw [text?_eq_bind, binding?_derived h]
  · rw [activeSpan?_eq_bind, binding?_derived h]
  · rw [isEmpty, beq_iff_eq, size_eq_length_keys hWF, List.length_eq_zero_iff,
      keys_derived_eq_nil_iff]
  · rw [Context.isInline_iff hWF, ne_eq, keys_derived_eq_nil_iff, length_keys_derived]
  · rw [Context.isSpilled_iff hWF, length_keys_derived]
    rfl

/-- Seven bindings of six keys: the sixth key moves the slots to a list, and an allocation that is
bound again leaves the context as it is. -/
theorem denotes_derived_seven :
    let ds : List Derivation :=
      [.value 10 1 (.text "a"), .shared 11 2 ⟨7, .text "b"⟩, .remote 12 .none,
        .value 13 3 (.text "c"), .value 14 4 (.text "d"), .value 15 5 (.text "e"),
        .shared 16 2 ⟨7, .text "b"⟩]
    Coherent ds ∧ Denotes (derived ds) ds ∧ (derived ds).isSpilled = true ∧
      (derived ds).text? ⟨2, "key"⟩ = some "b" := by
  intro ds
  have hCoherent : Coherent ds := by unfold Coherent; decide
  have hDenotes : Denotes (derived ds) ds := (denotes_derived ds hCoherent).1
  refine ⟨hCoherent, hDenotes, hDenotes.isSpilled_iff.2 (by decide), ?_⟩
  rw [hDenotes.text?_eq]
  rfl

end Context

end SpanFlow
