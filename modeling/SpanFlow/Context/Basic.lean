import SpanFlow.Context.Entries
import SpanFlow.SpanContext

/-!
# Contexts

A context is an immutable set of values that travels with a piece of work. Deriving a context makes
a new instance; the instance is part of what a context is, because the current context is compared
by instance and not by content. All contexts without values are one instance, the root.

Whoever derives a context supplies the number of the new instance. A bound value carries a number
too, that of the allocation that holds it: values that were shared before they were bound can be
told from equal ones that were not.

## Main results

* `same_refl`, `same_symm`, `same_trans`: being one instance is an equivalence.
* `not_same_derive`: what was derived under a new number is no instance that was there before.
-/

namespace SpanFlow

/-- A key under which a context binds a value. Keys of one name are different keys. -/
structure Key where
  id : Nat
  name : String
  deriving DecidableEq

/-- The description of a key; its number, which is no property of the work done, is not shown. -/
def Key.describe (k : Key) : String :=
  Text.record "ContextKey" [("name", Text.quote k.name), ("id", "#")]

/-- The span that a context carries: its identity and, unless the span lives elsewhere, the number
of the span that calls on it reach. -/
structure ActiveSpan where
  context : SpanContext
  span? : Option Nat
  deriving DecidableEq

/-- The span of a context that carries none. -/
def ActiveSpan.none : ActiveSpan := ⟨.none, Option.none⟩

/-- The description of a reference to the span of a context. -/
def ActiveSpan.describe (s : ActiveSpan) : String :=
  Text.tuple "SpanRef" <| Text.record "SynchronizedSpan"
    [("span_context", s.context.describe),
      ("recording", if s.span?.isSome then "true" else "false")]

/-- What a key can be bound to. -/
inductive Content where
  | text (s : String)
  | span (s : ActiveSpan)
  deriving DecidableEq

/-- A value in the allocation that holds it. -/
structure Binding where
  allocation : Nat
  content : Content
  deriving DecidableEq

/-- An instance of a context that has values. -/
structure Context.Instance where
  id : Nat
  entries : Context.Entries Binding

/-- A context: the root, or an instance with values. -/
structure Context where
  instance? : Option Context.Instance

namespace Context

/-- The context without values. -/
def root : Context := ⟨none⟩

/-- The key number under which the active span is bound; other keys have greater numbers. -/
def spanKey : Nat := 0

/-- Whether two contexts are one instance. -/
def same (a b : Context) : Bool :=
  match a.instance?, b.instance? with
  | none, none => true
  | some x, some y => x.id == y.id
  | _, _ => false

/-- The number of keys bound. -/
def size (cx : Context) : Nat :=
  match cx.instance? with
  | none => 0
  | some x => x.entries.size

/-- Whether no key is bound. -/
def isEmpty (cx : Context) : Bool := cx.size == 0

/-- What a key number is bound to. -/
def binding? (cx : Context) (key : Nat) : Option Binding :=
  cx.instance?.bind fun x => x.entries.get? key

/-- The text bound to a key. -/
def text? (cx : Context) (key : Key) : Option String :=
  match cx.binding? key.id with
  | some ⟨_, .text s⟩ => some s
  | _ => none

/-- The instance numbered `id` that binds one key more, or one key anew. -/
def derive (cx : Context) (id : Nat) (key : Nat) (b : Binding) : Context :=
  match cx.instance? with
  | none => ⟨some ⟨id, .single key b⟩⟩
  | some x => ⟨some ⟨id, x.entries.insert key b⟩⟩

/-- Binds a key to a new value. -/
def withValue (cx : Context) (id : Nat) (key : Nat) (content : Content) : Context :=
  cx.derive id key ⟨id, content⟩

/-- Binds a key to a value that was allocated before. If the key is bound to this very allocation,
the context itself is the answer. -/
def withShared (cx : Context) (id : Nat) (key : Nat) (b : Binding) : Context :=
  match cx.binding? key with
  | some old => if old.allocation = b.allocation then cx else cx.derive id key b
  | none => cx.derive id key b

/-- The span that a context carries. -/
def activeSpan? (cx : Context) : Option ActiveSpan :=
  match cx.binding? spanKey with
  | some ⟨_, .span s⟩ => some s
  | _ => none

/-- The span that a context carries, or the span that does nothing. -/
def activeSpan (cx : Context) : ActiveSpan := cx.activeSpan?.getD .none

/-- The identity of the span that a context carries. -/
def spanContext (cx : Context) : SpanContext := cx.activeSpan.context

/-- Whether a context carries a span. -/
def hasSpan (cx : Context) : Bool := cx.activeSpan?.isSome

/-- Carries a span. -/
def withSpan (cx : Context) (id : Nat) (s : ActiveSpan) : Context :=
  cx.withValue id spanKey (.span s)

/-- Carries the identity of a span that lives elsewhere. -/
def withRemote (cx : Context) (id : Nat) (sc : SpanContext) : Context :=
  cx.withSpan id ⟨sc, none⟩

/-- The description of a context. -/
def describe (cx : Context) : String :=
  let span := match cx.activeSpan? with
    | some s => s.context.describe
    | none => Text.quote "None"
  Text.record "Context" [("span", span), ("entries count", toString cx.size)]

/-- Whether a context is an instance with a number below `bound`, or the root. -/
def Below (cx : Context) (bound : Nat) : Prop := ∀ x, cx.instance? = some x → x.id < bound

@[simp] theorem same_refl (a : Context) : same a a = true := by
  cases h : a.instance? <;> simp [same, h]

/-- It does not matter which of two contexts is asked whether they are one instance. -/
theorem same_symm (a b : Context) : same a b = same b a := by
  unfold same
  cases a.instance? <;> cases b.instance? <;> simp [Bool.beq_comm]

/-- Two contexts that are one instance with a third are one with each other. -/
theorem same_trans {a b c : Context} (hab : same a b = true) (hbc : same b c = true) :
    same a c = true := by
  unfold same at *
  cases ha : a.instance? <;> cases hb : b.instance? <;> cases hc : c.instance? <;>
    simp_all

theorem instance?_derive (cx : Context) (id key : Nat) (b : Binding) :
    ∃ entries, (cx.derive id key b).instance? = some ⟨id, entries⟩ := by
  unfold derive
  split <;> exact ⟨_, rfl⟩

/-- What was derived under a new number is no instance that was there before. -/
theorem not_same_derive {old cx : Context} {id key : Nat} {b : Binding} (h : old.Below id) :
    same old (cx.derive id key b) = false := by
  obtain ⟨entries, hNew⟩ := instance?_derive cx id key b
  unfold same
  rw [hNew]
  cases hOld : old.instance? with
  | none => rfl
  | some x => simpa using Nat.ne_of_lt (h x hOld)

end Context

end SpanFlow
