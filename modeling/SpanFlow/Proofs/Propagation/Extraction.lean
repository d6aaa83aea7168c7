import Mathlib.Data.List.Forall2
import SpanFlow.Proofs.Propagation.ListedNames

/-!
# Reading a carrier with several propagators

A composite hands a context from one propagator to the next, and each of them may find its header
missing, unreadable or well-formed. This module says what comes of that for Jaeger propagators,
nested in composites to any depth. The last well-formed header decides which span the context
carries, and those in front of it leave no trace. A header that is missing or cannot be read takes
nothing back of what was found before it. If none is well-formed, the context is not even copied.

A header that cannot be read is reported where its turn comes, a missing one is not.

## Main results

* `extractJaeger_cases`: the three things that reading one header can come to.
* `reads_extractAll`: what reading headers in turn keeps, and what it reports.
* `extraction_by_leaves`: what a propagator reads, told from the headers of its leaves.
-/

namespace SpanFlow

theorem SpanContext.isValid_none : SpanContext.none.isValid = false := by decide

theorem Jaeger.decode_of_parse_ok {value : String} {sc : SpanContext} (h : parse value = .ok sc) :
    decode value = sc := by
  rw [decode, h]

namespace Propagator

/-! ## One header -/

/-- Whether there is a text under a name that is no header of a valid identity. -/
def isMalformed (reader : Extractor) (name : String) : Bool :=
  (reader.get? name).any fun value => !(Jaeger.decode value).isValid

/-- The report on a header that cannot be read: it tells the name and the first check that the text
does not pass. -/
def Reported (reader : Extractor) (name : String) (d : Diagnostic) : Prop :=
  ∃ value fault, reader.get? name = some value ∧ Jaeger.FirstFailing value fault ∧
    d = .unreadableHeader name fault

section Reading

variable (reader : Extractor)

/-- The identity under a name, told from the decoded text. -/
theorem identityAt_eq (name : String) :
    identityAt reader name = ((reader.get? name).map Jaeger.decode).filter SpanContext.isValid := by
  rw [identityAt]
  cases reader.get? name with
  | none => rfl
  | some value =>
    cases hParse : Jaeger.parse value with
    | ok sc =>
      simp [hParse, Except.toOption, Option.filter_some, Jaeger.decode_of_parse_ok hParse,
        Jaeger.isValid_of_parse hParse]
    | error fault =>
      simp [hParse, Except.toOption, Option.filter_some, Jaeger.decode_of_parse hParse,
        SpanContext.isValid_none]

theorem filterMap_identityAt (names : List String) :
    names.filterMap (identityAt reader) =
      ((names.filterMap reader.get?).map Jaeger.decode).filter SpanContext.isValid := by
  induction names with
  | nil => rfl
  | cons name rest ih =>
    rw [List.filterMap_cons, identityAt_eq, ih, List.filterMap_cons]
    cases reader.get? name with
    | none => rfl
    | some value =>
      cases hValid : (Jaeger.decode value).isValid <;> simp [Option.filter_some, hValid]

/-- Reading one header finds it well-formed and carries its identity, finds nothing, or reports that
it cannot be read. -/
theorem extractJaeger_cases (cx : Context) (next : Nat) (name : String) :
    (∃ sc, identityAt reader name = some sc ∧ isMalformed reader name = false ∧
        extractJaeger name reader cx next = ⟨cx.withRemote next sc, [], next + 1⟩) ∨
      (identityAt reader name = none ∧ isMalformed reader name = false ∧
        extractJaeger name reader cx next = ⟨cx, [], next⟩) ∨
      ∃ d, identityAt reader name = none ∧ isMalformed reader name = true ∧ Reported reader name d ∧
        extractJaeger name reader cx next = ⟨cx, [d], next⟩ := by
  cases hRead : reader.get? name with
  | none => exact .inr (.inl (by simp [identityAt, isMalformed, extractJaeger, hRead]))
  | some value =>
    cases hParse : Jaeger.parse value with
    | ok sc =>
      have hValid := Jaeger.isValid_of_parse hParse
      have hDecode := Jaeger.decode_of_parse_ok hParse
      refine .inl ⟨sc, ?_⟩
      simp [identityAt, isMalformed, extractJaeger, hRead, hParse, hDecode, hValid, Except.toOption]
    | error fault =>
      have hDecode := Jaeger.decode_of_parse hParse
      refine .inr (.inr ⟨.unreadableHeader name fault, ?_, ?_, ?_, ?_⟩)
      · simp [identityAt, hRead, hParse, Except.toOption]
      · simp [isMalformed, hRead, hDecode, SpanContext.isValid_none]
      · exact ⟨value, fault, hRead, Jaeger.parse_eq_error_iff.1 hParse, rfl⟩
      · simp [extractJaeger, hRead, hParse]

/-! ## Headers in turn -/

/-- What has been read under names into a context: a new instance for each identity, other keys as
they were, and a report on each header that cannot be read. -/
structure Reads (cx : Context) (next : Nat) (names : List String) (got : Extraction) : Prop where
  next_eq : got.next = next + (names.filterMap (identityAt reader)).length
  wellFormed : cx.WellFormed → got.context.WellFormed
  binding?_eq : cx.WellFormed → ∀ key ≠ Context.spanKey,
    got.context.binding? key = cx.binding? key
  reports : List.Forall₂ (Reported reader) (names.filter (isMalformed reader)) got.reports

/-- By induction on the names; the context that is read into is another one for each of them. -/
theorem reads_extractAll (cx : Context) (next : Nat) (names : List String) :
    Reads reader cx next names (extractAll reader cx next (names.map jaeger)) := by
  induction names generalizing cx next with
  | nil =>
    rw [List.map_nil, extractAll]
    exact ⟨rfl, id, fun _ _ _ => rfl, .nil⟩
  | cons name rest ih =>
    rw [List.map_cons, extractAll, extract]
    rcases extractJaeger_cases reader cx next name with ⟨sc, hAt, hReadable, hFirst⟩ |
      ⟨hAt, hReadable, hFirst⟩ | ⟨d, hAt, hMalformed, hReported, hFirst⟩
    · obtain ⟨hNext, hWellFormed, hBinding, hReports⟩ := ih (cx.withRemote next sc) (next + 1)
      have hCarrier : cx.WellFormed → (cx.withRemote next sc).WellFormed :=
        fun h => Context.wellFormed_derive h _ _ _
      rw [hFirst]
      refine ⟨?_, fun h => hWellFormed (hCarrier h), fun h key hKey => ?_, ?_⟩
      · rw [List.filterMap_cons_some hAt, List.length_cons, hNext]
        omega
      · rw [hBinding (hCarrier h) key hKey, Context.withRemote, Context.withSpan,
          Context.withValue, Context.binding?_derive h, if_neg (Ne.symm hKey)]
      · rw [List.filter_cons_of_neg (by simp [hReadable])]
        exact hReports
    · obtain ⟨hNext, hWellFormed, hBinding, hReports⟩ := ih cx next
      rw [hFirst]
      refine ⟨?_, hWellFormed, hBinding, ?_⟩
      · rw [List.filterMap_cons_none hAt, hNext]
      · rw [List.filter_cons_of_neg (by simp [hReadable])]
        exact hReports
    · obtain ⟨hNext, hWellFormed, hBinding, hReports⟩ := ih cx next
      rw [hFirst]
      refine ⟨?_, hWellFormed, hBinding, ?_⟩
      · rw [List.filterMap_cons_none hAt, hNext]
      · rw [List.filter_cons_of_pos hMalformed]
        exact .cons hReported hReports

end Reading

/-! ## Trees of propagators -/

/-- **The last header that can be read.** Whatever headers are there, missing or unreadable, a tree
of Jaeger propagators makes of a context one that carries the identity in the last of its headers
that can be read, as that of a span elsewhere, and that has all other keys bound as before. If none
can be read, the context is that very instance, and no number for a new one is used. One report is
made on each header that is there and cannot be read, in the order of the leaves. -/
theorem extraction_by_leaves {p : Propagator} (h : p.OnlyJaeger) (reader : Extractor)
    (cx : Context) (next : Nat) :
    let got := p.extract reader cx next
    let found := ((p.leafNames.filterMap reader.get?).map Jaeger.decode).filter SpanContext.isValid
    (∀ sc, found.getLast? = some sc →
      got.context.activeSpan? = some ⟨sc, none⟩ ∧ got.context.spanContext = sc ∧
        (cx.WellFormed → got.context.WellFormed ∧
          ∀ key ≠ Context.spanKey, got.context.binding? key = cx.binding? key)) ∧
      (found = [] → got.context = cx) ∧
      got.next = next + found.length ∧
      List.Forall₂ (Reported reader) (p.leafNames.filter (isMalformed reader)) got.reports := by
  intro got found
  have hGot : got = extractAll reader cx next (p.leafNames.map jaeger) :=
    extract_of_onlyJaeger h reader cx next
  have hFound : p.leafNames.filterMap (identityAt reader) = found :=
    filterMap_identityAt reader p.leafNames
  have hReads := reads_extractAll reader cx next p.leafNames
  have hContext := extractAll_jaeger reader cx next p.leafNames
  rw [← hGot] at hReads hContext
  rw [lastIdentity, hFound] at hContext
  refine ⟨fun sc hLast => ?_, fun hNone => ?_, hFound ▸ hReads.next_eq, hReads.reports⟩
  · rw [hLast] at hContext
    refine ⟨hContext, ?_, fun hForm => ⟨hReads.wellFormed hForm, hReads.binding?_eq hForm⟩⟩
    rw [Context.spanContext, Context.activeSpan, hContext, Option.getD_some]
  · rw [hNone, List.getLast?_nil] at hContext
    exact hContext

/-- A header that cannot be read, behind one that can, is reported and takes nothing back, and the
value of another key stays. -/
theorem extraction_by_leaves_unreadable :
    let p := composite [jaeger "a", composite [noop, jaeger "b", jaeger "c"], jaeger "d"]
    let reader :=
      (Carrier.mk .list [("a", "1:2:0:1"), ("b", "4d:5:0:0"), ("c", "4d:5:0")]).extractor
    let cx := Context.root.withValue 1 7 (.text "x")
    let got := p.extract reader cx 2
    p.OnlyJaeger ∧ cx.WellFormed ∧
      got.context.activeSpan? = some ⟨⟨.ofNat 0x4d, .ofNat 5, .none, .empty⟩, none⟩ ∧
      got.context.binding? 7 = some ⟨1, .text "x"⟩ ∧
      ∃ d, Reported reader "c" d ∧ got.reports = [d] := by
  intro p reader cx got
  have hOnly : p.OnlyJaeger := by
    have hInner : (composite [noop, jaeger "b", jaeger "c"]).OnlyJaeger :=
      onlyJaeger_composite (by simp [onlyJaeger_noop, onlyJaeger_jaeger])
    exact onlyJaeger_composite (by simp [onlyJaeger_jaeger, hInner])
  have hNames : p.leafNames = ["a", "b", "c", "d"] := by
    simp [p, leafNames, leaves, leavesAll, fields]
  have hForm : cx.WellFormed := Context.wellFormed_derive Context.wellFormed_root _ _ _
  obtain ⟨hLast, -, -, hReports⟩ := extraction_by_leaves hOnly reader cx 2
  rw [hNames] at hLast hReports
  obtain ⟨hSpan, -, hKept⟩ :=
    hLast ⟨.ofNat 0x4d, .ofNat 5, .none, .empty⟩ (by decide)
  have hMalformed : ["a", "b", "c", "d"].filter (isMalformed reader) = ["c"] := by decide
  rw [hMalformed] at hReports
  refine ⟨hOnly, hForm, hSpan, ((hKept hForm).2 7 (by decide)).trans rfl, ?_⟩
  cases hReports with
  | cons hFirst hRest =>
    cases hRest
    exact ⟨_, hFirst, rfl⟩

end Propagator

end SpanFlow
