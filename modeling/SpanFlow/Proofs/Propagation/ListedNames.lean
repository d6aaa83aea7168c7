import SpanFlow.Proofs.Context.Derivation
import SpanFlow.Proofs.Propagation.Flattening
import SpanFlow.Proofs.Propagation.HeaderGrammar
import SpanFlow.Script.Propagation

/-!
# The names that Jaeger propagators list

Composites of Jaeger propagators, nested to any depth, list the names of all the headers in them.
This module shows that the list is what they go by: nothing is written under another name, a valid
identity is written under every one of the names with the same text, and what is read depends on
these names only.

A composite is known by its leaves, so everything is said of a list of headers first. Reading with a
list of headers takes the last identity that can be read; a header that is missing or cannot be
read changes nothing.

## Main results

* `inject_of_onlyJaeger`: what is written, from the names.
* `extract_of_onlyJaeger`: reading goes by the last name under which there is an identity.
* `listed_names_sound`: the list of names is sound for writing and for reading.
* `makePropagator_of_isJaeger`: plans of Jaeger propagators, with names of any kind, make
  propagators of which all this is true.
-/

namespace SpanFlow

theorem Jaeger.isValid_of_parse {value : String} {sc : SpanContext} (h : parse value = .ok sc) :
    sc.isValid = true := by
  obtain ⟨f, hf, rfl⟩ := parse_eq_ok_iff.1 h
  exact (f.isValid_context (hf.passes .traceId) (hf.passes .spanId)).2 (hf.passes .zeroId)

namespace Propagator

/-! ## Propagators that only use Jaeger headers -/

/-- The names of the leaves of a propagator, in order and with repetitions. -/
def leafNames (p : Propagator) : List String := p.leaves.flatMap fields

/-- Nothing but Jaeger propagators does anything in a tree of propagators. -/
def OnlyJaeger (p : Propagator) : Prop := ∀ leaf ∈ p.leaves, ∃ header, leaf = jaeger header

theorem onlyJaeger_noop : OnlyJaeger noop := by
  intro leaf hLeaf
  rw [leaves] at hLeaf
  exact absurd hLeaf List.not_mem_nil

theorem onlyJaeger_jaeger (header : String) : OnlyJaeger (jaeger header) := by
  intro leaf hLeaf
  rw [leaves] at hLeaf
  exact ⟨header, List.mem_singleton.1 hLeaf⟩

theorem leavesAll_eq_flatMap (ps : List Propagator) : leavesAll ps = ps.flatMap leaves := by
  induction ps with
  | nil => rw [leavesAll]; rfl
  | cons p rest ih => rw [leavesAll, ih, List.flatMap_cons]

theorem onlyJaeger_composite {members : List Propagator} (h : ∀ p ∈ members, p.OnlyJaeger) :
    (composite members).OnlyJaeger := by
  intro leaf hLeaf
  rw [leaves, leavesAll_eq_flatMap] at hLeaf
  obtain ⟨p, hMember, hLeaf⟩ := List.mem_flatMap.1 hLeaf
  exact h p hMember leaf hLeaf

theorem mem_fields_iff {p : Propagator} {name : String} :
    name ∈ p.fields ↔ name ∈ p.leafNames := by
  have hSame := firstSeen_leaves [] p
  have hFields : name ∈ firstSeen [] p.fields ↔ name ∈ p.fields := by simp [mem_firstSeen]
  rw [← hFields, ← hSame]
  simp [mem_firstSeen, leafNames]

theorem leaves_of_onlyJaeger {p : Propagator} (h : p.OnlyJaeger) :
    p.leaves = p.leafNames.map jaeger := by
  have hList : ∀ ps : List Propagator, (∀ leaf ∈ ps, ∃ header, leaf = jaeger header) →
      ps = (ps.flatMap fields).map jaeger := by
    intro ps hAll
    induction ps with
    | nil => rfl
    | cons leaf rest ih =>
      obtain ⟨header, rfl⟩ := hAll leaf List.mem_cons_self
      have hRest := ih fun other hOther => hAll other (List.mem_cons_of_mem _ hOther)
      rw [List.flatMap_cons, fields, List.map_append, ← hRest]
      rfl
  exact hList p.leaves h

/-! ## Writing -/

/-- Jaeger propagators write one value, if there is any, under all their names. -/
theorem inject_of_onlyJaeger {p : Propagator} (h : p.OnlyJaeger) (cx : Context) :
    p.inject cx = match Jaeger.encode cx.spanContext with
      | some value => p.leafNames.map fun name => (name, value)
      | none => [] := by
  rw [← inject_leaves, leaves_of_onlyJaeger h, List.flatMap_map]
  cases hText : Jaeger.encode cx.spanContext with
  | none =>
    refine List.flatMap_eq_nil_iff.2 fun name _ => ?_
    rw [inject, hText]
    rfl
  | some value =>
    have hEach : ∀ name, inject cx (jaeger name) = [(name, value)] := by
      intro name
      rw [inject, hText]
      rfl
    simp only [hEach, List.map_eq_flatMap]

/-! ## Reading -/

/-- The identity under a name, if one can be read there. -/
def identityAt (reader : Extractor) (name : String) : Option SpanContext :=
  (reader.get? name).bind fun value => (Jaeger.parse value).toOption

/-- The identity that reading in turn under several names comes to: the last that can be read. -/
def lastIdentity (reader : Extractor) (names : List String) : Option SpanContext :=
  (names.filterMap (identityAt reader)).getLast?

theorem isValid_of_identityAt {reader : Extractor} {name : String} {sc : SpanContext}
    (h : identityAt reader name = some sc) : sc.isValid = true := by
  obtain ⟨value, -, hParse⟩ := Option.bind_eq_some_iff.1 h
  cases hRead : Jaeger.parse value with
  | error fault => rw [hRead] at hParse; cases hParse
  | ok found =>
    rw [hRead] at hParse
    cases hParse
    exact Jaeger.isValid_of_parse hRead

theorem isValid_of_lastIdentity {reader : Extractor} {names : List String}
    {sc : SpanContext} (h : lastIdentity reader names = some sc) : sc.isValid = true := by
  have hMem : sc ∈ names.filterMap (identityAt reader) := List.mem_of_getLast? h
  obtain ⟨name, -, hAt⟩ := List.mem_filterMap.1 hMem
  exact isValid_of_identityAt hAt

theorem lastIdentity_congr {reader other : Extractor} {names : List String}
    (h : ∀ name ∈ names, reader.get? name = other.get? name) :
    lastIdentity reader names = lastIdentity other names := by
  have hAt : names.filterMap (identityAt reader) = names.filterMap (identityAt other) := by
    refine List.filterMap_congr fun name hName => ?_
    rw [identityAt, identityAt, h name hName]
  rw [lastIdentity, lastIdentity, hAt]

/-- Reading under one name carries the identity that is there, or changes nothing. -/
theorem context_extractJaeger (reader : Extractor) (cx : Context) (next : Nat)
    (name : String) :
    (extractJaeger name reader cx next).context =
      match identityAt reader name with
      | some sc => cx.withRemote next sc
      | none => cx := by
  unfold extractJaeger identityAt
  cases reader.get? name with
  | none => rfl
  | some value =>
    rw [Option.bind_some]
    cases hParse : Jaeger.parse value with
    | error fault => simp only [hParse, Except.toOption]
    | ok sc => simp only [hParse, Except.toOption]

theorem extractAll_jaeger (reader : Extractor) (cx : Context) (next : Nat)
    (names : List String) :
    let reached := (extractAll reader cx next (names.map jaeger)).context
    match lastIdentity reader names with
    | some sc => reached.activeSpan? = some ⟨sc, none⟩
    | none => reached = cx := by
  induction names using List.reverseRecOn with
  | nil =>
    intro reached
    exact congrArg Extraction.context (extractAll.eq_1 reader cx next)
  | append_singleton names name ih =>
    intro reached
    have hLast : reached = match identityAt reader name with
        | some sc => (extractAll reader cx next (names.map jaeger)).context.withRemote
            (extractAll reader cx next (names.map jaeger)).next sc
        | none => (extractAll reader cx next (names.map jaeger)).context := by
      rw [← context_extractJaeger]
      simp only [reached, List.map_append, List.map_cons, List.map_nil, extractAll_append,
        extractAll_singleton, extract]
    rw [hLast, lastIdentity, List.filterMap_append]
    cases hAt : identityAt reader name with
    | none =>
      rw [List.filterMap_cons_none hAt, List.filterMap_nil, List.append_nil]
      exact ih
    | some sc =>
      rw [List.filterMap_cons_some hAt, List.filterMap_nil, List.getLast?_concat]
      exact Context.activeSpan?_withSpan _ _ _

theorem extractAll_congr {reader other : Extractor} {names : List String}
    (h : ∀ name ∈ names, reader.get? name = other.get? name) (cx : Context) (next : Nat) :
    extractAll reader cx next (names.map jaeger) = extractAll other cx next (names.map jaeger) := by
  induction names generalizing cx next with
  | nil => rw [List.map_nil, extractAll, extractAll]
  | cons name rest ih =>
    have hFirst : extract reader cx next (jaeger name) = extract other cx next (jaeger name) := by
      rw [extract, extract, extractJaeger, extractJaeger, h name List.mem_cons_self]
    rw [List.map_cons, extractAll, extractAll, hFirst]
    simp only [ih fun name hName => h name (List.mem_cons_of_mem _ hName)]

theorem extractAll_absent {reader : Extractor} {names : List String}
    (h : ∀ name ∈ names, reader.get? name = none) (cx : Context) (next : Nat) :
    extractAll reader cx next (names.map jaeger) = ⟨cx, [], next⟩ := by
  induction names with
  | nil => rw [List.map_nil, extractAll]
  | cons name rest ih =>
    have hFirst : extract reader cx next (jaeger name) = ⟨cx, [], next⟩ := by
      rw [extract, extractJaeger, h name List.mem_cons_self]
    rw [List.map_cons, extractAll, hFirst]
    simp only [ih fun name hName => h name (List.mem_cons_of_mem _ hName), List.append_nil]

/-- What is read is what the leaves read in turn. -/
theorem extract_of_onlyJaeger {p : Propagator} (h : p.OnlyJaeger) (reader : Extractor)
    (cx : Context) (next : Nat) :
    p.extract reader cx next = extractAll reader cx next (p.leafNames.map jaeger) := by
  rw [← extractAll_leaves, leaves_of_onlyJaeger h]

/-! ## The list of names -/

/-- Of two contexts that were read into one, either both are that one, or both carry the same valid
identity of a span elsewhere. -/
def ReadAlike (into a b : Context) : Prop :=
  (a = into ∧ b = into) ∨
    ∃ sc : SpanContext, sc.isValid = true ∧ a.activeSpan? = some ⟨sc, none⟩ ∧
      b.activeSpan? = some ⟨sc, none⟩

/-- The names that a tree of Jaeger propagators lists are sound. A valid identity is written under
all of them, with one text, and under no other name; without a valid identity nothing is
written. What is read is the same wherever there is the same under these names, also when the new
instances get other numbers, and it is the context itself when there is nothing. -/
theorem listed_names_sound {p : Propagator} (h : p.OnlyJaeger) (cx : Context) :
    (∀ set ∈ p.inject cx, set.1 ∈ p.fields) ∧
      (cx.spanContext.isValid = true →
        ∃ value, (∀ name ∈ p.fields, (name, value) ∈ p.inject cx) ∧
          ∀ set ∈ p.inject cx, set.2 = value) ∧
      (cx.spanContext.isValid = false → p.inject cx = []) ∧
      (∀ reader other : Extractor, (∀ name ∈ p.fields, reader.get? name = other.get? name) →
        (∀ next, p.extract reader cx next = p.extract other cx next) ∧
          ∀ next next', ReadAlike cx (p.extract reader cx next).context
            (p.extract other cx next').context) ∧
      ∀ reader : Extractor, (∀ name ∈ p.fields, reader.get? name = none) →
        ∀ next, p.extract reader cx next = ⟨cx, [], next⟩ := by
  have hInject := inject_of_onlyJaeger h cx
  refine ⟨?_, ?_, ?_, ?_, ?_⟩
  · intro set hSet
    rw [hInject] at hSet
    cases hText : Jaeger.encode cx.spanContext with
    | none =>
      rw [hText] at hSet
      exact absurd hSet List.not_mem_nil
    | some value =>
      rw [hText] at hSet
      obtain ⟨name, hName, rfl⟩ := List.mem_map.1 hSet
      exact mem_fields_iff.2 hName
  · intro hValid
    obtain ⟨value, hText⟩ : ∃ value, Jaeger.encode cx.spanContext = some value := by
      rw [Jaeger.encode, if_pos hValid]
      exact ⟨_, rfl⟩
    rw [hText] at hInject
    refine ⟨value, ?_, ?_⟩
    · intro name hName
      rw [hInject]
      exact List.mem_map.2 ⟨name, mem_fields_iff.1 hName, rfl⟩
    · intro set hSet
      rw [hInject] at hSet
      obtain ⟨name, -, rfl⟩ := List.mem_map.1 hSet
      rfl
  · intro hInvalid
    rw [hInject, Jaeger.encode_eq_none_iff.2 hInvalid]
  · intro reader other hAgree
    have hNames : ∀ name ∈ p.leafNames, reader.get? name = other.get? name :=
      fun name hName => hAgree name (mem_fields_iff.2 hName)
    refine ⟨fun next => ?_, fun next next' => ?_⟩
    · rw [extract_of_onlyJaeger h, extract_of_onlyJaeger h, extractAll_congr hNames]
    · rw [extract_of_onlyJaeger h, extract_of_onlyJaeger h]
      have hRead := extractAll_jaeger reader cx next p.leafNames
      have hOther := extractAll_jaeger other cx next' p.leafNames
      rw [← lastIdentity_congr hNames] at hOther
      cases hLast : lastIdentity reader p.leafNames with
      | none =>
        rw [hLast] at hRead hOther
        exact Or.inl ⟨hRead, hOther⟩
      | some sc =>
        rw [hLast] at hRead hOther
        exact Or.inr ⟨sc, isValid_of_lastIdentity hLast, hRead, hOther⟩
  · intro reader hAbsent next
    rw [extract_of_onlyJaeger h]
    exact extractAll_absent (fun name hName => hAbsent name (mem_fields_iff.2 hName)) cx next

/-- A name with blanks around it and a blank name are listed as what they stand for, and written
under that. -/
theorem listed_names_sound_trimmed :
    let p := composite [noop, jaeger (Jaeger.headerNamed " b3 "),
      composite [jaeger (Jaeger.headerNamed " ")]]
    let cx := Context.root.withRemote 1 ⟨.ofNat 77, .ofNat 5, .sampled, .empty⟩
    p.OnlyJaeger ∧ p.fields = ["b3", "uber-trace-id"] ∧ cx.spanContext.isValid = true ∧
      ∃ value, ∀ name ∈ ["b3", "uber-trace-id"], (name, value) ∈ p.inject cx := by
  intro p cx
  have hOnly : p.OnlyJaeger := by
    refine onlyJaeger_composite fun q hq => ?_
    simp only [List.mem_cons, List.not_mem_nil, or_false] at hq
    rcases hq with rfl | rfl | rfl
    · exact onlyJaeger_noop
    · exact onlyJaeger_jaeger _
    · refine onlyJaeger_composite fun inner hInner => ?_
      obtain rfl := List.mem_singleton.1 hInner
      exact onlyJaeger_jaeger _
  have hFields : p.fields = ["b3", "uber-trace-id"] := by
    simp only [p, fields, fieldsOf, firstSeen, List.not_mem_nil, if_false, List.nil_append]
    decide
  have hValid : cx.spanContext.isValid = true := by
    have hCarried : cx.spanContext = ⟨.ofNat 77, .ofNat 5, .sampled, .empty⟩ :=
      Context.spanContext_withSpan _ _ _
    rw [hCarried]
    decide
  obtain ⟨-, hWritten, -⟩ := listed_names_sound hOnly cx
  obtain ⟨value, hAll, -⟩ := hWritten hValid
  exact ⟨hOnly, hFields, hValid, value, fun name hName => hAll name (hFields ▸ hName)⟩

end Propagator

/-! ## Plans -/

namespace Script

/-- A plan of Jaeger propagators: with the standard header or with a name of any kind, nested in
composites and beside propagators that do nothing. -/
inductive PropagatorPlan.IsJaeger : PropagatorPlan → Prop
  | noop : IsJaeger .noop
  | jaeger (header? : Option String) : IsJaeger (.jaeger header?)
  | composite {members : List PropagatorPlan} (all : ∀ plan ∈ members, IsJaeger plan) :
      IsJaeger (.composite members)

mutual

/-- Plans of Jaeger propagators are made as they stand: no step of the making fails, and what is
made has no other leaves. -/
theorem makePropagator_of_isJaeger :
    (plan : PropagatorPlan) → plan.IsJaeger →
      ∃ p : Propagator, makePropagator plan = pure p ∧ p.OnlyJaeger
  | .noop, _ => ⟨.noop, by rw [makePropagator], Propagator.onlyJaeger_noop⟩
  | .jaeger none, _ => ⟨_, by rw [makePropagator], Propagator.onlyJaeger_jaeger _⟩
  | .jaeger (some header), _ => ⟨_, by rw [makePropagator], Propagator.onlyJaeger_jaeger _⟩
  | .composite members, h => by
    have hAll : ∀ plan ∈ members, plan.IsJaeger := by
      cases h with
      | composite all => exact all
    obtain ⟨ps, hMake, hOnly⟩ := makePropagators_of_isJaeger members hAll
    refine ⟨.composite ps, ?_, Propagator.onlyJaeger_composite hOnly⟩
    rw [makePropagator, hMake, pure_bind]

theorem makePropagators_of_isJaeger :
    (plans : List PropagatorPlan) → (∀ plan ∈ plans, plan.IsJaeger) →
      ∃ ps : List Propagator, makePropagators plans = pure ps ∧ ∀ p ∈ ps, p.OnlyJaeger
  | [], _ => ⟨[], by rw [makePropagators], fun p hp => absurd hp List.not_mem_nil⟩
  | plan :: rest, h => by
    obtain ⟨p, hMake, hOnly⟩ := makePropagator_of_isJaeger plan (h plan List.mem_cons_self)
    obtain ⟨ps, hMakeRest, hOnlyRest⟩ :=
      makePropagators_of_isJaeger rest fun other hOther => h other (List.mem_cons_of_mem _ hOther)
    refine ⟨p :: ps, ?_, List.forall_mem_cons.2 ⟨hOnly, hOnlyRest⟩⟩
    rw [makePropagators, hMake, hMakeRest, pure_bind, pure_bind]

end

end Script

end SpanFlow
