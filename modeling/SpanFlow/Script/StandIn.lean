import SpanFlow.Recording.Exporter
import SpanFlow.Recording.Sampler

/-!
# Stand-ins

Samplers and exporters for trying things out: they follow simple rules that a script states.
-/

namespace SpanFlow

namespace Sampler

/-- Puts members into a trace state, one after the other; one that has no place is passed over. -/
def insertAll (ts : TraceState) : List (String × String) → TraceState
  | [] => ts
  | (key, value) :: rest =>
    match ts.insert key value with
    | .ok ts => insertAll ts rest
    | .error _ => insertAll ts rest

/-- The sampler that always decides the same, adds the same attributes, and puts members in front
of the parent's trace state or of none. -/
def fixed (decision : SamplingDecision) (attributes : List Attribute) (keep : Bool)
    (members : List (String × String)) : Sampler :=
  custom fun q => ⟨decision, attributes, insertAll (if keep then q.parentState else .empty) members⟩

/-- The sampler that records where it is given a context, and tells in attributes what it was
asked. -/
def echo : Sampler :=
  custom fun q =>
    let parent := match q.parent? with
      | some cx => cx.spanContext.spanId.text
      | none => "absent"
    ⟨if q.parent?.isSome then .recordAndSample else .drop,
      [⟨"trace", .text q.traceId.text⟩, ⟨"name", .text q.name⟩, ⟨"parent", .text parent⟩,
        ⟨"given", .int (q.attributes.length + q.links.length)⟩],
      .empty⟩

end Sampler

namespace Exporter

/-- The answers of an exporter, one for each kind of call; a call without one succeeds. -/
structure Answers where
  export? : Option ExportError
  flush? : Option ExportError
  shutdown? : Option ExportError

/-- The rule that gives these answers, whatever was called before. -/
def Answers.rule (a : Answers) : List ExporterCall → ExporterCall → Option ExportError
  | _, .export _ => a.export?
  | _, .flush => a.flush?
  | _, .shutdown => a.shutdown?

end Exporter

end SpanFlow
