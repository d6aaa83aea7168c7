import Mathlib.Data.List.Induction
import SpanFlow.Propagation.Propagator

/-!
# Flattening of composites

Composites may be nested to any depth, with composites without members and propagators that do
nothing anywhere between. What such a tree of propagators does is what its leaves do, one after the
other in the order in which they stand.

For writing and reading that is a matter of putting lists end to end. For the names it is not: a
composite removes repetitions from the names of its members, and the composite around it does so
again. `firstSeen_firstSeen` says that the inner removal makes no difference to the outer one.

## Main results

* `firstSeen_eq_eraseDups`: a composite keeps of each name the first occurrence.
* `firstSeen_leaves`, `inject_leaves`, `extractAll_leaves`: a propagator by its leaves.
* `composite_flattened`: a composite does what the composite of its leaves does.
-/

namespace SpanFlow.Propagator

/-! ## Leaves -/

mutual

/-- The propagators in a tree of composites that may do something, from left to right. -/
def leaves : Propagator → List Propagator
  | noop => []
  | jaeger header => [jaeger header]
  | custom rules => [custom rules]
  | composite members => leavesAll members

/-- The leaves of several trees, from left to right. -/
def leavesAll : List Propagator → List Propagator
  | [] => []
  | p :: rest => p.leaves ++ leavesAll rest

end

/-- A propagator that works by itself and may do something. -/
def IsLeaf : Propagator → Prop
  | noop => False
  | jaeger _ => True
  | custom _ => True
  | composite _ => False

mutual

theorem isLeaf_of_mem_leaves {q : Propagator} : (p : Propagator) → q ∈ p.leaves → q.IsLeaf
  | noop, h => by
    rw [leaves] at h
    exact absurd h List.not_mem_nil
  | jaeger header, h => by
    rw [leaves] at h
    obtain rfl := List.mem_singleton.1 h
    exact trivial
  | custom rules, h => by
    rw [leaves] at h
    obtain rfl := List.mem_singleton.1 h
    exact trivial
  | composite members, h => by
    rw [leaves] at h
    exact isLeaf_of_mem_leavesAll members h

theorem isLeaf_of_mem_leavesAll {q : Propagator} :
    (ps : List Propagator) → q ∈ leavesAll ps → q.IsLeaf
  | [], h => by
    rw [leavesAll] at h
    exact absurd h List.not_mem_nil
  | p :: rest, h => by
    rw [leavesAll] at h
    rcases List.mem_append.1 h with hFirst | hRest
    · exact isLeaf_of_mem_leaves p hFirst
    · exact isLeaf_of_mem_leavesAll rest hRest

end

/-! ## Names -/

theorem firstSeen_append (seen xs ys : List String) :
    firstSeen seen (xs ++ ys) = firstSeen (firstSeen seen xs) ys := by
  induction xs generalizing seen with
  | nil => rfl
  | cons x rest ih =>
    rw [List.cons_append, firstSeen, firstSeen]
    exact ih _

theorem mem_firstSeen {y : String} {seen xs : List String} :
    y ∈ firstSeen seen xs ↔ y ∈ seen ∨ y ∈ xs := by
  induction xs generalizing seen with
  | nil => simp [firstSeen]
  | cons x rest ih =>
    rw [firstSeen, ih]
    by_cases hx : x ∈ seen
    · rw [if_pos hx, List.mem_cons]
      constructor
      · rintro (hSeen | hRest)
        · exact Or.inl hSeen
        · exact Or.inr (Or.inr hRest)
      · rintro (hSeen | rfl | hRest)
        · exact Or.inl hSeen
        · exact Or.inl hx
        · exact Or.inr hRest
    · rw [if_neg hx, List.mem_append, List.mem_singleton, List.mem_cons, or_assoc]

/-- What is already without repetitions adds the same as what it was made from. -/
theorem firstSeen_firstSeen (seen xs : List String) :
    firstSeen seen (firstSeen [] xs) = firstSeen seen xs := by
  induction xs using List.reverseRecOn with
  | nil => rfl
  | append_singleton xs x ih =>
    have hSnoc : ∀ ys, firstSeen ys [x] = if x ∈ ys then ys else ys ++ [x] := fun _ => rfl
    rw [firstSeen_append [] xs [x], firstSeen_append seen xs [x], hSnoc]
    by_cases hx : x ∈ firstSeen [] xs
    · have hAgain : x ∈ firstSeen seen xs := by
        rcases mem_firstSeen.1 hx with hNil | hMem
        · exact absurd hNil List.not_mem_nil
        · exact mem_firstSeen.2 (Or.inr hMem)
      rw [if_pos hx, ih, hSnoc, if_pos hAgain]
    · rw [if_neg hx, firstSeen_append, ih]

theorem firstSeen_eq (seen xs : List String) :
    firstSeen seen xs = seen ++ (xs.filter fun x => x ∉ seen).eraseDups := by
  induction xs generalizing seen with
  | nil => simp [firstSeen]
  | cons x rest ih =>
    rw [firstSeen, ih]
    by_cases hx : x ∈ seen
    · rw [if_pos hx, List.filter_cons_of_neg (by simpa using hx)]
    · have hRest : (rest.filter fun y => y ∉ seen ++ [x]) =
          (rest.filter fun y => y ∉ seen).filter fun y => !y == x := by
        rw [List.filter_filter]
        refine List.filter_congr fun y _ => ?_
        rw [Bool.eq_iff_iff]
        simp [and_comm]
      rw [if_neg hx, List.filter_cons_of_pos (by simpa using hx), List.eraseDups_cons, hRest,
        List.append_assoc, List.singleton_append]

/-- A composite keeps of each name the first occurrence. -/
theorem firstSeen_eq_eraseDups (xs : List String) : firstSeen [] xs = xs.eraseDups := by
  rw [firstSeen_eq, List.nil_append, List.filter_eq_self.2 fun x _ => by simp]

theorem fieldsOf_eq (seen : List String) (ps : List Propagator) :
    fieldsOf seen ps = firstSeen seen (ps.flatMap fields) := by
  induction ps generalizing seen with
  | nil => rw [fieldsOf]; rfl
  | cons p rest ih => rw [fieldsOf, ih, List.flatMap_cons, firstSeen_append]

mutual

/-- The names of a propagator add the same to a list as those of its leaves. -/
theorem firstSeen_leaves (seen : List String) :
    (p : Propagator) → firstSeen seen (p.leaves.flatMap fields) = firstSeen seen p.fields
  | noop => by rw [leaves, fields]; rfl
  | jaeger header => by rw [leaves, List.flatMap_singleton]
  | custom rules => by rw [leaves, List.flatMap_singleton]
  | composite members => by
    rw [leaves, fields_composite, fieldsOf_eq, firstSeen_firstSeen]
    exact firstSeen_leavesAll seen members

theorem firstSeen_leavesAll (seen : List String) :
    (ps : List Propagator) →
      firstSeen seen ((leavesAll ps).flatMap fields) = firstSeen seen (ps.flatMap fields)
  | [] => by rw [leavesAll]
  | p :: rest => by
    rw [leavesAll, List.flatMap_append, List.flatMap_cons, firstSeen_append, firstSeen_append,
      firstSeen_leaves seen p, firstSeen_leavesAll _ rest]

end

/-! ## Writing -/

mutual

/-- What a propagator writes is what its leaves write, in their order. -/
theorem inject_leaves (cx : Context) :
    (p : Propagator) → p.leaves.flatMap (inject cx) = p.inject cx
  | noop => by rw [leaves, inject]; rfl
  | jaeger header => by rw [leaves, List.flatMap_singleton]
  | custom rules => by rw [leaves, List.flatMap_singleton]
  | composite members => by
    rw [leaves, inject_composite]
    exact inject_leavesAll cx members

theorem inject_leavesAll (cx : Context) :
    (ps : List Propagator) → (leavesAll ps).flatMap (inject cx) = ps.flatMap (inject cx)
  | [] => by rw [leavesAll]
  | p :: rest => by
    rw [leavesAll, List.flatMap_append, List.flatMap_cons, inject_leaves cx p,
      inject_leavesAll cx rest]

end

/-! ## Reading -/

section Reading

variable (reader : Extractor)

theorem extractAll_append (cx : Context) (next : Nat) (ps qs : List Propagator) :
    extractAll reader cx next (ps ++ qs) =
      let first := extractAll reader cx next ps
      let others := extractAll reader first.context first.next qs
      ⟨others.context, first.reports ++ others.reports, others.next⟩ := by
  induction ps generalizing cx next with
  | nil => rw [List.nil_append, extractAll.eq_1]; rfl
  | cons p rest ih => simp only [List.cons_append, extractAll, ih, List.append_assoc]

theorem extractAll_singleton (cx : Context) (next : Nat) (p : Propagator) :
    extractAll reader cx next [p] = p.extract reader cx next := by
  simp only [extractAll, List.append_nil]

mutual

/-- Reading with a propagator is reading with its leaves in turn. -/
theorem extractAll_leaves (cx : Context) (next : Nat) :
    (p : Propagator) → extractAll reader cx next p.leaves = p.extract reader cx next
  | noop => by rw [leaves, extractAll, extract]
  | jaeger header => by rw [leaves, extractAll_singleton]
  | custom rules => by rw [leaves, extractAll_singleton]
  | composite members => by
    rw [leaves, extract]
    exact extractAll_leavesAll cx next members

theorem extractAll_leavesAll (cx : Context) (next : Nat) :
    (ps : List Propagator) →
      extractAll reader cx next (leavesAll ps) = extractAll reader cx next ps
  | [] => by rw [leavesAll]
  | p :: rest => by
    rw [leavesAll, extractAll_append, extractAll_leaves cx next p, extractAll]
    simp only [extractAll_leavesAll _ _ rest]

end

/-- None of the propagators, when its turn to read comes, changes the context that it is given. -/
def Idle (cx : Context) (next : Nat) (ps : List Propagator) : Prop :=
  ∀ before p after, ps = before ++ p :: after →
    let given := extractAll reader cx next before
    (p.extract reader given.context given.next).context = given.context

theorem context_extractAll_of_idle {cx : Context} {next : Nat} {ps : List Propagator}
    (h : Idle reader cx next ps) : (extractAll reader cx next ps).context = cx := by
  induction ps using List.reverseRecOn with
  | nil => rw [extractAll]
  | append_singleton ps p ih =>
    have hBefore : Idle reader cx next ps := by
      rintro before q after rfl
      exact h before q (after ++ [p]) (by simp)
    have hLast := h ps p [] rfl
    rw [extractAll_append]
    simp only [extractAll_singleton]
    rw [hLast, ih hBefore]

end Reading

/-! ## Composites -/

/-- Two propagators that cannot be told apart by what they list, write and read. -/
structure Agree (p q : Propagator) : Prop where
  fields : p.fields = q.fields
  inject : ∀ cx, p.inject cx = q.inject cx
  extract : ∀ reader cx next, p.extract reader cx next = q.extract reader cx next

/-- A composite agrees with the composite of its leaves. Its names are those of the leaves, of which
each stays where it is first listed, and it gives back the very context that it reads into unless a
leaf changes it. -/
theorem composite_flattened (members : List Propagator) :
    (∀ p ∈ leavesAll members, p.IsLeaf) ∧
      Agree (composite members) (composite (leavesAll members)) ∧
      (composite members).fields = ((leavesAll members).flatMap fields).eraseDups ∧
      ∀ reader cx next, Idle reader cx next (leavesAll members) →
        ((composite members).extract reader cx next).context = cx := by
  have hFields :
      (composite members).fields = firstSeen [] ((leavesAll members).flatMap fields) := by
    rw [fields_composite, fieldsOf_eq, firstSeen_leavesAll]
  have hExtract : ∀ reader cx next,
      (composite members).extract reader cx next =
        extractAll reader cx next (leavesAll members) := by
    intro reader cx next
    rw [extract, extractAll_leavesAll]
  refine ⟨fun p => isLeaf_of_mem_leavesAll members, ⟨?_, ?_, ?_⟩, ?_, ?_⟩
  · rw [hFields, fields_composite, fieldsOf_eq]
  · intro cx
    rw [inject_composite, inject_composite, inject_leavesAll]
  · intro reader cx next
    rw [hExtract, extract]
  · rw [hFields, firstSeen_eq_eraseDups]
  · intro reader cx next hIdle
    rw [hExtract]
    exact context_extractAll_of_idle reader hIdle

/-- A name that is listed inside a nested composite and again after it stays where it was first, and
reading from an empty carrier gives back the context. -/
theorem composite_flattened_nested :
    let members := [noop, composite [jaeger "a", composite []], jaeger "b", jaeger "a"]
    let absent := (Carrier.mk .list []).extractor
    (composite members).fields = ["a", "b"] ∧ Idle absent .root 5 (leavesAll members) ∧
      ((composite members).extract absent .root 5).context = .root := by
  intro members absent
  have hLeaves : leavesAll members = [jaeger "a", jaeger "b", jaeger "a"] := by
    simp only [members, leavesAll, leaves, List.nil_append, List.append_nil, List.singleton_append]
  have hIdle : Idle absent .root 5 (leavesAll members) := by
    intro before p after hSplit given
    have hMem : p ∈ [jaeger "a", jaeger "b", jaeger "a"] := by
      rw [← hLeaves, hSplit]
      exact List.mem_append_right before List.mem_cons_self
    simp only [List.mem_cons, List.not_mem_nil, or_false] at hMem
    rcases hMem with rfl | rfl | rfl <;> rw [extract] <;> rfl
  have hFlat := composite_flattened members
  refine ⟨?_, hIdle, hFlat.2.2.2 absent .root 5 hIdle⟩
  rw [hFlat.2.2.1, hLeaves]
  simp only [List.flatMap_cons, List.flatMap_nil, fields]
  decide

end SpanFlow.Propagator
