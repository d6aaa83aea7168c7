import SpanFlow.Propagation.Carrier
import SpanFlow.Proofs.Text.Lowercase

/-!
# Names of carriers

A map carrier knows a name by its lower case alone. After any number of writes it gives back what
was written last under that name in any case, and lists each name that was written once, in lower
case. The listed names are names to ask for as well, since lower case of lower case is lower case.

## Main results

* `get?_afterSets`: what a map gives back after some writes.
* `mem_names_afterSets`, `nodup_names_afterSets`: the names it lists.
* `map_of_sets`: these together, with what follows for names that are respelled or listed.
-/

namespace SpanFlow.Carrier

/-! ## Writing into a map -/

/-- An empty map after some writes, each of them a name and a text. -/
def afterSets (sets : List (String × String)) : Carrier := (ofItems .map []).setAll sets

/-- The last write to a name, in whatever case it was written. -/
def lastSet? (name : String) (sets : List (String × String)) : Option (String × String) :=
  (sets.filter fun s => Text.lowercase s.1 = Text.lowercase name).getLast?

theorem lastSet?_append_singleton (name : String) (sets : List (String × String))
    (s : String × String) :
    lastSet? name (sets ++ [s]) =
      if Text.lowercase s.1 = Text.lowercase name then some s else lastSet? name sets := by
  by_cases h : Text.lowercase s.1 = Text.lowercase name
  · simp [lastSet?, List.filter_append, h]
  · simp [lastSet?, List.filter_append, h]

theorem isSome_lastSet?_iff {name : String} {sets : List (String × String)} :
    (lastSet? name sets).isSome ↔ ∃ s ∈ sets, Text.lowercase s.1 = Text.lowercase name := by
  rw [lastSet?, List.getLast?_isSome, ne_eq, List.filter_eq_nil_iff]
  simp

theorem lastSet?_congr {name other : String} (h : Text.lowercase name = Text.lowercase other)
    (sets : List (String × String)) : lastSet? name sets = lastSet? other sets := by
  rw [lastSet?, lastSet?, h]

theorem kind_set (c : Carrier) (name value : String) : (c.set name value).kind = c.kind := by
  unfold set
  split
  · rename_i hKind
    exact hKind.symm
  · rfl

theorem setAll_append_singleton (c : Carrier) (sets : List (String × String))
    (s : String × String) : c.setAll (sets ++ [s]) = (c.setAll sets).set s.1 s.2 := by
  rw [setAll, List.foldl_append]
  rfl

theorem kind_afterSets (sets : List (String × String)) : (afterSets sets).kind = .map := by
  induction sets using List.reverseRecOn with
  | nil => rfl
  | append_singleton sets s ih =>
    rw [afterSets, setAll_append_singleton, kind_set]
    exact ih

/-- One write more. -/
theorem afterSets_append_singleton (sets : List (String × String)) (s : String × String) :
    afterSets (sets ++ [s]) =
      ⟨.map, Assoc.insert (afterSets sets).items (Text.lowercase s.1) s.2⟩ := by
  have hKind := kind_afterSets sets
  rw [afterSets] at hKind
  rw [afterSets, setAll_append_singleton, set, hKind]
  rfl

/-! ## What is read -/

/-- After some writes a name has the value of the last write to it, whatever its case was. -/
theorem get?_afterSets (sets : List (String × String)) (name : String) :
    (afterSets sets).get? name = (lastSet? name sets).map Prod.snd := by
  induction sets using List.reverseRecOn with
  | nil => rfl
  | append_singleton sets s ih =>
    have hBefore : get? ⟨.map, (afterSets sets).items⟩ name = (afterSets sets).get? name := by
      rw [← kind_afterSets sets]
    have hWrite := get?_set_map (afterSets sets).items s.1 name s.2
    rw [hBefore, ih] at hWrite
    rw [afterSets_append_singleton, lastSet?_append_singleton]
    refine hWrite.trans ?_
    split <;> rfl

/-! ## What is listed -/

theorem names_afterSets (sets : List (String × String)) :
    (afterSets sets).names = Text.sortBy id ((afterSets sets).items.map Prod.fst) := by
  rw [names, kind_afterSets]

/-- A map binds the lower case of the names that were written. -/
theorem mem_keys_afterSets {sets : List (String × String)} {name : String} :
    name ∈ (afterSets sets).items.map Prod.fst ↔ ∃ s ∈ sets, Text.lowercase s.1 = name := by
  induction sets using List.reverseRecOn with
  | nil => simp [afterSets, setAll, ofItems]
  | append_singleton sets s ih =>
    rw [afterSets_append_singleton, Assoc.mem_keys_insert, ih]
    simp only [List.mem_append, List.mem_singleton, or_and_right, exists_or, exists_eq_left]
    rw [or_comm, @eq_comm _ name]

theorem nodup_keys_afterSets (sets : List (String × String)) :
    ((afterSets sets).items.map Prod.fst).Nodup := by
  induction sets using List.reverseRecOn with
  | nil => exact List.nodup_nil
  | append_singleton sets s ih =>
    rw [afterSets_append_singleton]
    exact Assoc.nodup_keys_insert ih _ _

/-- The names listed are those of the writes, in lower case. -/
theorem mem_names_afterSets {sets : List (String × String)} {name : String} :
    name ∈ (afterSets sets).names ↔ ∃ s ∈ sets, Text.lowercase s.1 = name := by
  rw [names_afterSets, Text.mem_sortBy, mem_keys_afterSets]

/-- No name is listed twice. -/
theorem nodup_names_afterSets (sets : List (String × String)) : (afterSets sets).names.Nodup := by
  rw [names_afterSets, (Text.sortBy_perm id _).nodup_iff]
  exact nodup_keys_afterSets sets

/-- **Names of a map carrier.** After any writes into an empty map, a name gives the text of the
last of them whose name has the same lower case, alone or as a list of one, and nothing if there is
none. A name that was written is found in any respelling with other cases of ASCII letters, and so
is each name that is listed. Listed are the lower case of the names that were written, each once. -/
theorem map_of_sets (sets : List (String × String)) :
    (∀ name, (afterSets sets).get? name = (lastSet? name sets).map Prod.snd ∧
      (afterSets sets).getAll? name = (lastSet? name sets).map fun s => [s.2]) ∧
    (∀ s ∈ sets, ∀ name, Text.Respelled name s.1 →
      ((afterSets sets).get? name).isSome ∧
      (afterSets sets).get? name = (afterSets sets).get? s.1) ∧
    (∀ name ∈ (afterSets sets).names, ((afterSets sets).get? name).isSome) ∧
    (afterSets sets).names.Nodup ∧
    ∀ name, name ∈ (afterSets sets).names ↔ ∃ s ∈ sets, Text.lowercase s.1 = name := by
  refine ⟨fun name => ⟨get?_afterSets sets name, ?_⟩, fun s hSet name hName => ?_,
    fun name hListed => ?_, nodup_names_afterSets sets, fun name => mem_names_afterSets⟩
  · rw [getAll?, get?_afterSets, Option.map_map]
    rfl
  · have hLower := Text.lowercase_eq_of_respelled hName
    rw [get?_afterSets, get?_afterSets, Option.isSome_map, lastSet?_congr hLower]
    exact ⟨isSome_lastSet?_iff.2 ⟨s, hSet, rfl⟩, rfl⟩
  · obtain ⟨s, hSet, rfl⟩ := mem_names_afterSets.1 hListed
    rw [get?_afterSets, Option.isSome_map, isSome_lastSet?_iff]
    exact ⟨s, hSet, (Text.lowercase_lowercase s.1).symm⟩

-- A capital sigma at the end of a word becomes the final one, so that these are one name.
example : (setAll ⟨.map, []⟩ [("ΟΔΟΣ", "one"), ("οδος", "two")]).entries = [("οδος", "two")] := by
  decide +kernel

end SpanFlow.Carrier
