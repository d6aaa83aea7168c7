import SpanFlow.Context.Basic
import SpanFlow.Diagnostic
import SpanFlow.Propagation.Carrier

/-!
# Propagators

A propagator writes what is in a context to a carrier, and derives a context from what it reads
there. It also lists the names that it may use. Writing is a sequence of names with texts, so that
it can be done on any carrier; reading asks an extractor, of which propagators with rules of their
own may use everything.

A composite hands its work to its members in order: each member's writing follows the one before
it, and each member reads into the context that the one before it derived.

## Main results

* `inject_composite`, `fields_composite`: what a composite does, from what its members do.
-/

namespace SpanFlow

/-- A context that was read from a carrier, what was reported on the way, and the first number that
is still free for a new instance. -/
structure Extraction where
  context : Context
  reports : List Diagnostic
  next : Nat

/-- A propagator that works by rules of its own. -/
structure PropagatorRules where
  fields : List String
  inject : Context → List (String × String)
  extract : Extractor → Context → Nat → Extraction

/-- How a context travels in a carrier. -/
inductive Propagator where
  | noop
  | jaeger (header : String)
  | custom (rules : PropagatorRules)
  | composite (members : List Propagator)

namespace Propagator

/-- A list without repetitions: of equal items the first stays. -/
def firstSeen (seen : List String) : List String → List String
  | [] => seen
  | x :: rest => firstSeen (if x ∈ seen then seen else seen ++ [x]) rest

/-- Reads a Jaeger header. -/
def extractJaeger (header : String) (reader : Extractor) (cx : Context) (next : Nat) :
    Extraction :=
  match reader.get? header with
  | none => ⟨cx, [], next⟩
  | some value =>
    match Jaeger.parse value with
    | .ok sc => ⟨cx.withRemote next sc, [], next + 1⟩
    | .error fault => ⟨cx, [.unreadableHeader header fault], next⟩

mutual

/-- The names that a propagator may use. -/
def fields : Propagator → List String
  | noop => []
  | jaeger header => [header]
  | custom rules => rules.fields
  | composite members => fieldsOf [] members

/-- The names of members, each once. -/
def fieldsOf (seen : List String) : List Propagator → List String
  | [] => seen
  | p :: rest => fieldsOf (firstSeen seen p.fields) rest

end

mutual

/-- What is written of a context. -/
def inject (cx : Context) : Propagator → List (String × String)
  | noop => []
  | jaeger header => ((Jaeger.encode cx.spanContext).map fun value => (header, value)).toList
  | custom rules => rules.inject cx
  | composite members => injectAll cx members

/-- What members write, one after the other. -/
def injectAll (cx : Context) : List Propagator → List (String × String)
  | [] => []
  | p :: rest => p.inject cx ++ injectAll cx rest

end

mutual

/-- Reads into a context. -/
def extract (reader : Extractor) (cx : Context) (next : Nat) : Propagator → Extraction
  | noop => ⟨cx, [], next⟩
  | jaeger header => extractJaeger header reader cx next
  | custom rules => rules.extract reader cx next
  | composite members => extractAll reader cx next members

/-- Reads with members, each into the context of the one before it. -/
def extractAll (reader : Extractor) (cx : Context) (next : Nat) : List Propagator → Extraction
  | [] => ⟨cx, [], next⟩
  | p :: rest =>
    let first := extract reader cx next p
    let others := extractAll reader first.context first.next rest
    ⟨others.context, first.reports ++ others.reports, others.next⟩

end

mutual

/-- The description of a propagator. -/
def describe : Propagator → String
  | noop => Text.record "NoopTextMapPropagator" [("_private", "()")]
  | jaeger header => Text.record "Propagator" [("fields", Text.bracketed [Text.quote header])]
  | custom _ => "Custom"
  | composite members =>
    Text.record "TextMapCompositePropagator"
      [("propagators", Text.bracketed (describeAll members)),
        ("fields", Text.bracketed ((fieldsOf [] members).map Text.quote))]

/-- The descriptions of members, each of which may be shared. -/
def describeAll : List Propagator → List String
  | [] => []
  | p :: rest => Text.tuple "Shared" p.describe :: describeAll rest

end

/-- The propagator that carries one text: the value of a key, under a name. -/
def ofKey (key : Key) (header : String) (fields : List String) : Propagator :=
  custom {
    fields := fields
    inject := fun cx => ((cx.text? key).map fun value => (header, value)).toList
    extract := fun reader cx next =>
      match reader.get? header with
      | none => ⟨cx, [], next⟩
      | some value => ⟨cx.withValue next key.id (.text value), [], next + 1⟩ }

/-- A composite lists the names of its members, each once. -/
theorem fields_composite (members : List Propagator) :
    (composite members).fields = fieldsOf [] members := by
  rw [fields]

/-- A composite writes what its members write, one after another. -/
theorem inject_composite (cx : Context) (members : List Propagator) :
    (composite members).inject cx = members.flatMap (inject cx) := by
  rw [inject]
  induction members with
  | nil => rw [injectAll]; rfl
  | cons p rest ih => rw [injectAll, ih, List.flatMap_cons]

end Propagator

end SpanFlow
