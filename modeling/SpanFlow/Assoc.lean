/-!
# Finite maps as lists of pairs

Small maps from names or numbers to values. A key is bound at most once: writing takes the old
binding out first.

## Main results

* `get?_insert`, `get?_erase`: what a key is bound to after a write and after a removal.
* `mem_insert`: the bindings after a write.
* `nodup_keys_insert`: a key is bound once, whatever is written.
-/

namespace SpanFlow

/-- A finite map, as its bindings. -/
abbrev Assoc (κ α : Type) := List (κ × α)

namespace Assoc

variable {κ α : Type} [DecidableEq κ]

/-- The value bound to a key. -/
def get? (m : Assoc κ α) (k : κ) : Option α := (m.find? fun b => b.1 = k).map Prod.snd

/-- The map without a key. -/
def erase (m : Assoc κ α) (k : κ) : Assoc κ α := m.filter fun b => b.1 ≠ k

/-- The map with a key bound to a value. -/
def insert (m : Assoc κ α) (k : κ) (v : α) : Assoc κ α := (k, v) :: erase m k

/-- Whether a key is bound. -/
def contains (m : Assoc κ α) (k : κ) : Bool := (get? m k).isSome

@[simp] theorem get?_nil (k : κ) : get? ([] : Assoc κ α) k = none := rfl

theorem get?_cons (b : κ × α) (m : Assoc κ α) (k : κ) :
    get? (b :: m) k = if b.1 = k then some b.2 else get? m k := by
  by_cases h : b.1 = k <;> simp [get?, h]

/-- A removal takes the binding of its key and no other. -/
theorem get?_erase (m : Assoc κ α) (j k : κ) :
    get? (erase m j) k = if j = k then none else get? m k := by
  induction m with
  | nil => simp [erase]
  | cons b m ih =>
    by_cases hb : b.1 = j
    · have hErase : erase (b :: m) j = erase m j := by simp [erase, hb]
      rw [hErase, ih, get?_cons]
      by_cases hk : j = k <;> simp [hb, hk]
    · have hErase : erase (b :: m) j = b :: erase m j := by simp [erase, hb]
      rw [hErase, get?_cons, ih, get?_cons]
      by_cases hk : j = k
      · simp [hk, show b.1 ≠ k from fun h => hb (h.trans hk.symm)]
      · simp [hk]

/-- After a write its key has the value that was written, and all other keys have what they had. -/
theorem get?_insert (m : Assoc κ α) (j k : κ) (v : α) :
    get? (insert m j v) k = if j = k then some v else get? m k := by
  rw [insert, get?_cons, get?_erase]
  by_cases h : j = k <;> simp [h]

theorem mem_erase {m : Assoc κ α} {k : κ} {b : κ × α} : b ∈ erase m k ↔ b ∈ m ∧ b.1 ≠ k := by
  simp [erase]

/-- The bindings after a write: the new one, and those of other keys. -/
theorem mem_insert {m : Assoc κ α} {k : κ} {v : α} {b : κ × α} :
    b ∈ insert m k v ↔ b = (k, v) ∨ (b ∈ m ∧ b.1 ≠ k) := by
  simp [insert, mem_erase]

theorem isSome_get?_iff {m : Assoc κ α} {k : κ} :
    (get? m k).isSome ↔ k ∈ m.map Prod.fst := by
  simp [get?]

theorem mem_keys_insert {m : Assoc κ α} {j k : κ} {v : α} :
    j ∈ (insert m k v).map Prod.fst ↔ j = k ∨ j ∈ m.map Prod.fst := by
  rw [← isSome_get?_iff, ← isSome_get?_iff, get?_insert]
  by_cases h : k = j
  · simp [h]
  · simp [h, Ne.symm h]

/-- A write leaves each key bound once. -/
theorem nodup_keys_insert {m : Assoc κ α} (h : (m.map Prod.fst).Nodup) (k : κ) (v : α) :
    ((insert m k v).map Prod.fst).Nodup := by
  have hOthers : ((erase m k).map Prod.fst).Nodup :=
    h.sublist (List.filter_sublist.map Prod.fst)
  have hFresh : k ∉ (erase m k).map Prod.fst := by
    rw [← isSome_get?_iff, get?_erase]
    simp
  exact List.nodup_cons.2 ⟨hFresh, hOthers⟩

end Assoc

end SpanFlow
