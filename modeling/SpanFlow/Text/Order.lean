/-!
# The order of texts

Texts are ordered by code points, which is also the order of their UTF-8 bytes.

## Main results

* `order_eq_iff`: equal texts, and no others, compare as equal.
* `sortBy_perm`: what is sorted is in another order, and otherwise the same.
-/

namespace SpanFlow.Text

/-- Compares two texts by their code points. -/
def order (a b : String) : Ordering :=
  if a < b then .lt else if a = b then .eq else .gt

/-- Puts an item into a list sorted by a text key, behind the items with a smaller or equal key. -/
def insertBy (key : α → String) (item : α) : List α → List α
  | [] => [item]
  | x :: rest => if key item < key x then item :: x :: rest else x :: insertBy key item rest

/-- Sorts by a text key; items with one key keep their order. -/
def sortBy (key : α → String) (items : List α) : List α :=
  items.foldl (fun sorted item => insertBy key item sorted) []

/-- Equal texts, and no others, compare as equal. -/
theorem order_eq_iff {a b : String} : order a b = .eq ↔ a = b := by
  unfold order
  split
  · rename_i hLt
    exact ⟨fun h => (by cases h), fun h => absurd hLt (h ▸ String.lt_irrefl b)⟩
  · split <;> simp_all

theorem insertBy_perm (key : α → String) (item : α) (items : List α) :
    (insertBy key item items).Perm (item :: items) := by
  induction items with
  | nil => exact List.Perm.refl _
  | cons x rest ih =>
    rw [insertBy]
    split
    · exact List.Perm.refl _
    · exact (ih.cons x).trans (List.Perm.swap item x rest)

theorem foldl_insertBy_perm (key : α → String) (items sorted : List α) :
    (items.foldl (fun s item => insertBy key item s) sorted).Perm (items ++ sorted) := by
  induction items generalizing sorted with
  | nil => exact List.Perm.refl _
  | cons item rest ih =>
    have hMiddle : (rest ++ item :: sorted).Perm (item :: (rest ++ sorted)) := List.perm_middle
    exact ((ih _).trans ((insertBy_perm key item sorted).append_left rest)).trans hMiddle

/-- Sorting changes the order of items, and nothing else. -/
theorem sortBy_perm (key : α → String) (items : List α) : (sortBy key items).Perm items := by
  have hFold := foldl_insertBy_perm key items []
  rwa [List.append_nil] at hFold

theorem mem_sortBy {key : α → String} {x : α} {items : List α} :
    x ∈ sortBy key items ↔ x ∈ items :=
  (sortBy_perm key items).mem_iff

end SpanFlow.Text
