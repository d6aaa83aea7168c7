import SpanFlow.Proofs.Context.Derivation

/-!
# Shared values and the identity of contexts

Binding a key to a value that was allocated before gives back the context itself where the key has
this very allocation already. Everything else that is derived is an instance of its own. Which of
the two it is depends on the last binding of the key and on nothing else: not on what other keys
were bound since, nor on whether the bindings lie in slots or in a list.

That an instance is none of those that were there before holds because numbers are taken upwards.
`Made` says of contexts how they came about: each was derived from one that was there, under a
number that none of them had.

## Main results

* `allocation?_derivedFrom`: which allocation a key has after a chain of derivations.
* `Made.within`: contexts that were made use no number that is left.
* `rebinds_derivedFrom`: when a derivation gives back the context itself.
-/

namespace SpanFlow.Context

/-- The allocation that holds the value of a key. -/
def allocation? (cx : Context) (key : Nat) : Option Nat :=
  (cx.binding? key).map Binding.allocation

/-- The context that a chain of derivations makes of another one. -/
def derivedFrom (start : Context) (ds : List Derivation) : Context :=
  ds.foldl Derivation.apply start

/-! ## Chains of derivations -/

theorem derivedFrom_append (start : Context) (ds : List Derivation) (d : Derivation) :
    derivedFrom start (ds ++ [d]) = d.apply (derivedFrom start ds) := by
  simp [derivedFrom]

theorem wellFormed_derivedFrom {start : Context} (h : start.WellFormed) (ds : List Derivation) :
    (derivedFrom start ds).WellFormed := by
  induction ds using List.reverseRecOn with
  | nil => exact h
  | append_singleton ds d ih =>
    rw [derivedFrom_append]
    exact d.wellFormed_apply ih

theorem allocation?_apply {cx : Context} (h : cx.WellFormed) (d : Derivation) (k : Nat) :
    (d.apply cx).allocation? k =
      if d.key = k then some d.binding.allocation else cx.allocation? k := by
  rcases d.apply_cases cx with hNew | ⟨hSame, old, hOld, hAllocation⟩
  · rw [hNew, allocation?, binding?_derive h]
    split <;> rfl
  · rw [hSame]
    by_cases hKey : d.key = k
    · rw [if_pos hKey, ← hKey, allocation?, hOld, Option.map_some, hAllocation]
    · rw [if_neg hKey]

/-- **The allocation of a key** is the one that it was last bound to, in the chain or before. -/
theorem allocation?_derivedFrom {start : Context} (h : start.WellFormed) (ds : List Derivation)
    (k : Nat) :
    (derivedFrom start ds).allocation? k =
      ((last? ds k).or (start.binding? k)).map Binding.allocation := by
  induction ds using List.reverseRecOn with
  | nil => rfl
  | append_singleton ds d ih =>
    rw [derivedFrom_append, allocation?_apply (wellFormed_derivedFrom h ds), ih, last?_append]
    by_cases hKey : d.key = k
    · rw [if_pos hKey, if_pos hKey]
      rfl
    · rw [if_neg hKey, if_neg hKey]

/-! ## Binding a shared value -/

section Shared

variable {cx : Context} {id key : Nat} {b : Binding}

/-- A key that has the allocation leaves the context as it is. -/
theorem withShared_eq_self (h : cx.allocation? key = some b.allocation) :
    cx.withShared id key b = cx := by
  obtain ⟨old, hOld, hSame⟩ := Option.map_eq_some_iff.1 h
  rw [withShared, hOld]
  exact if_pos hSame

theorem withShared_eq_derive (h : cx.allocation? key ≠ some b.allocation) :
    cx.withShared id key b = cx.derive id key b := by
  rw [withShared]
  cases hOld : cx.binding? key with
  | none => rfl
  | some old =>
    refine if_neg fun hSame => h ?_
    rw [allocation?, hOld, Option.map_some, hSame]

end Shared

/-! ## Contexts that were made -/

/-- A context that uses numbers below a bound only, for its instance and for what it holds. -/
structure Within (next : Nat) (cx : Context) : Prop where
  wellFormed : cx.WellFormed
  instance_lt : cx.Below next
  allocation_lt : ∀ k a, cx.allocation? k = some a → a < next

namespace Within

variable {next : Nat} {cx : Context}

theorem root (next : Nat) : Within next .root where
  wellFormed := wellFormed_root
  instance_lt _ h := nomatch h
  allocation_lt _ _ h := nomatch h

theorem mono (h : Within next cx) {later : Nat} (hLater : next ≤ later) : Within later cx where
  wellFormed := h.wellFormed
  instance_lt x hx := Nat.lt_of_lt_of_le (h.instance_lt x hx) hLater
  allocation_lt k a ha := Nat.lt_of_lt_of_le (h.allocation_lt k a ha) hLater

theorem apply (h : Within next cx) {d : Derivation} (hUsed : d.id < next)
    (hHeld : d.binding.allocation < next) : Within next (d.apply cx) where
  wellFormed := d.wellFormed_apply h.wellFormed
  instance_lt := by
    rcases d.apply_cases cx with hDerived | ⟨hSame, -⟩
    · obtain ⟨entries, hInstance⟩ := instance?_derive cx d.id d.key d.binding
      rw [hDerived]
      intro x hx
      obtain rfl := Option.some.inj (hInstance.symm.trans hx)
      exact hUsed
    · rw [hSame]
      exact h.instance_lt
  allocation_lt k a ha := by
    rw [allocation?_apply h.wellFormed] at ha
    split at ha
    · obtain rfl := Option.some.inj ha
      exact hHeld
    · exact h.allocation_lt k a ha

end Within

/-- Contexts that were made one after the other, and the number from which on none is used, neither
for an instance nor for an allocation. -/
inductive Made : Nat → List Context → Prop
  | root (next : Nat) : Made next [root]
  | derive {next later : Nat} {made : List Context} {cx : Context} {d : Derivation} :
    Made next made → cx ∈ made → next ≤ d.id → d.id < later → d.binding.allocation < later →
    Made later (d.apply cx :: made)

namespace Made

variable {next : Nat} {made : List Context}

theorem mono (h : Made next made) {later : Nat} (hLater : next ≤ later) : Made later made := by
  cases h with
  | root => exact .root later
  | derive hMade hMem hNew hUsed hHeld =>
    exact .derive hMade hMem hNew (Nat.lt_of_lt_of_le hUsed hLater)
      (Nat.lt_of_lt_of_le hHeld hLater)

theorem root_mem (h : Made next made) : Context.root ∈ made := by
  induction h with
  | root => exact List.mem_singleton_self _
  | derive _ _ _ _ _ ih => exact List.mem_cons_of_mem _ ih

/-- Contexts that were made use no number that is left to be used. -/
theorem within (h : Made next made) : ∀ cx ∈ made, Within next cx := by
  induction h with
  | root next => exact List.forall_mem_singleton.2 (.root next)
  | @derive next later made cx d _ hMem hNew hUsed hHeld ih =>
    have hLater : next ≤ later := Nat.le_of_lt (Nat.lt_of_le_of_lt hNew hUsed)
    have hOld : ∀ old ∈ made, Within later old := fun old hOld => (ih old hOld).mono hLater
    exact List.forall_mem_cons.2 ⟨(hOld cx hMem).apply hUsed hHeld, hOld⟩

/-- Every chain of derivations whose numbers go up can be made, from any context that is there. -/
theorem exists_chain {start : Context} (h : Made next made) (hStart : start ∈ made) {later : Nat}
    (hLater : next ≤ later) {ds : List Derivation} (hUp : ds.Pairwise fun d e => d.id < e.id)
    (hNumbers : ∀ d ∈ ds, next ≤ d.id ∧ d.id < later ∧ d.binding.allocation ≤ d.id) :
    ∃ made', Made later made' ∧ made ⊆ made' ∧ derivedFrom start ds ∈ made' := by
  induction ds generalizing start next made with
  | nil => exact ⟨made, h.mono hLater, List.Subset.refl made, hStart⟩
  | cons d rest ih =>
    obtain ⟨hFirst, hRest⟩ := List.pairwise_cons.1 hUp
    obtain ⟨⟨hNew, hUsed, hHeld⟩, hOthers⟩ := List.forall_mem_cons.1 hNumbers
    have hMade : Made (d.id + 1) (d.apply start :: made) :=
      .derive h hStart hNew (Nat.lt_succ_self _) (Nat.lt_succ_of_le hHeld)
    obtain ⟨made', hMade', hMore, hEnd⟩ := ih hMade List.mem_cons_self hUsed hRest fun e he =>
      ⟨hFirst e he, (hOthers e he).2⟩
    exact ⟨made', hMade', fun old hOld => hMore (List.mem_cons_of_mem _ hOld), hEnd⟩

/-- An instance under a number that was not used is none of those that were made. -/
theorem not_same_derive (h : Made next made) (cx : Context) (key : Nat) (b : Binding) :
    ∀ old ∈ made, same old (cx.derive next key b) = false :=
  fun old hOld => Context.not_same_derive (h.within old hOld).instance_lt

/-- Of contexts that were made, only one and the same is the same instance. -/
theorem eq_of_same (h : Made next made) :
    ∀ a ∈ made, ∀ b ∈ made, same a b = true → a = b := by
  induction h with
  | root next =>
    intro a ha b hb _
    rw [List.mem_singleton.1 ha, List.mem_singleton.1 hb]
  | @derive next later made cx d hMade hMem hNew hUsed hHeld ih =>
    rcases d.apply_cases cx with hDerived | ⟨hSame, -⟩
    · have hFresh : ∀ old ∈ made, same old (d.apply cx) = false := by
        rw [hDerived]
        exact (hMade.mono hNew).not_same_derive cx d.key d.binding
      intro a ha b hb hEq
      rcases List.mem_cons.1 ha with rfl | hOldA <;> rcases List.mem_cons.1 hb with rfl | hOldB
      · rfl
      · rw [same_symm, hFresh b hOldB] at hEq
        cases hEq
      · rw [hFresh a hOldA] at hEq
        cases hEq
      · exact ih a hOldA b hOldB hEq
    · rw [hSame]
      have hSubset : ∀ x ∈ cx :: made, x ∈ made := List.forall_mem_cons.2 ⟨hMem, fun _ => id⟩
      exact fun a ha b hb => ih a (hSubset a ha) b (hSubset b hb)

end Made

/-- What binding a key gives back, of a context in which the key has the allocation `last?`, when
these contexts were made and numbers from `next` on were not used. -/
structure Rebinds (next : Nat) (made : List Context) (cx : Context) (k : Nat) (last? : Option Nat) :
    Prop where
  allocation_eq : cx.allocation? k = last?
  found : ∀ b, cx.binding? k = some b → cx.withShared next k b = cx
  shared : ∀ b, last? = some b.allocation → cx.withShared next k b = cx
  same_iff : ∀ b, same cx (cx.withShared next k b) = true ↔ last? = some b.allocation
  shared_anew : ∀ b, last? ≠ some b.allocation →
    ∀ old ∈ made, same old (cx.withShared next k b) = false
  unused : ∀ b : Binding, next ≤ b.allocation → last? ≠ some b.allocation
  value_anew : ∀ content, ∀ old ∈ made, same old (cx.withValue next k content) = false

/-- After any chain of derivations a key has the allocation that it was last bound to, in the chain
or before it, and that decides what binding it again gives back. -/
theorem rebinds_derivedFrom {next : Nat} {made : List Context} (hMade : Made next made)
    {start : Context} (hStart : start ∈ made) {ds : List Derivation}
    (hReceiver : derivedFrom start ds ∈ made) (k : Nat) :
    Rebinds next made (derivedFrom start ds) k
      (((last? ds k).or (start.binding? k)).map Binding.allocation) := by
  have hLast := allocation?_derivedFrom (hMade.within start hStart).wellFormed ds k
  generalize derivedFrom start ds = cx at hReceiver hLast ⊢
  generalize ((last? ds k).or (start.binding? k)).map Binding.allocation = last? at hLast ⊢
  have hSame : ∀ b : Binding, last? = some b.allocation → cx.withShared next k b = cx :=
    fun b hb => withShared_eq_self (hLast.trans hb)
  have hAnew : ∀ b : Binding, last? ≠ some b.allocation →
      ∀ old ∈ made, same old (cx.withShared next k b) = false := by
    intro b hb
    rw [withShared_eq_derive (hLast ▸ hb)]
    exact hMade.not_same_derive cx k b
  constructor
  case allocation_eq => exact hLast
  case found =>
    intro b hb
    apply withShared_eq_self
    rw [allocation?, hb, Option.map_some]
  case shared => exact hSame
  case same_iff =>
    intro b
    by_cases hb : last? = some b.allocation
    · simp [hSame b hb, hb]
    · simp [hAnew b hb cx hReceiver, hb]
  case shared_anew => exact hAnew
  case unused =>
    intro b hNew hb
    have hLess := (hMade.within cx hReceiver).allocation_lt k b.allocation (hLast.trans hb)
    omega
  case value_anew => exact fun content => hMade.not_same_derive cx k _

end SpanFlow.Context
