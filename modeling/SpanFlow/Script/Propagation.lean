import SpanFlow.Script.Action

/-!
# Steps on carriers and propagators

Making carriers and propagators, and passing contexts through them: with a propagator under a name,
or with the one that is set for the whole session.
-/

namespace SpanFlow.Script

open Session

mutual

/-- Makes a propagator from its plan. -/
def makePropagator : PropagatorPlan → Action Propagator
  | .noop => return .noop
  | .jaeger none => return .jaeger Jaeger.standardHeader
  | .jaeger (some header) => return .jaeger (Jaeger.headerNamed header)
  | .named name => named World.propagators name
  | .ofKey key header fields? => do
    let k ← named World.keys key
    return .ofKey k header (fields?.getD [header])
  | .composite members => do return .composite (← makePropagators members)

/-- Makes propagators from their plans, in order. -/
def makePropagators : List PropagatorPlan → Action (List Propagator)
  | [] => return []
  | plan :: rest => do
    let p ← makePropagator plan
    return p :: (← makePropagators rest)

end

/-- Makes and names a propagator. -/
def namePropagator (target : String) (plan : PropagatorPlan) (described : Bool) :
    Action Result := do
  let p ← makePropagator plan
  modify fun w => { w with propagators := Assoc.insert w.propagators target p }
  return .propagator p.fields (if described then some p.describe else none)

/-- Sets the propagator of the session. -/
def setGlobal (plan : PropagatorPlan) : Action Result := do
  let p ← makePropagator plan
  modify fun w => { w with global := p }
  return .nothing

/-- The propagator under a name, or that of the session. -/
def propagatorOr (name? : Option String) : Action Propagator :=
  match name? with
  | some name => named World.propagators name
  | none => ask World.global

/-- Names a carrier. -/
def putCarrier (name : String) (c : Carrier) : Action Result :=
  change fun w => (.entries c.entries, { w with carriers := Assoc.insert w.carriers name c })

/-- Writes to a carrier. -/
def setCarrier (name key value : String) : Action Result := do
  let c ← named World.carriers name
  putCarrier name (c.set key value)

/-- Reads from a carrier. -/
def readCarrier (name key : String) : Action Result := do
  let c ← named World.carriers name
  return .found (c.get? key) (c.getAll? key) c.names

/-- Writes a context to a carrier. -/
def inject (flow : Nat) (propagator? : Option String) (carrier : String)
    (cx? : Option String) : Action Result := do
  let p ← propagatorOr propagator?
  let c ← named World.carriers carrier
  let cx ← contextOr flow cx?
  putCarrier carrier (c.setAll (p.inject cx))

/-- Reads a context from a carrier and names it. -/
def extract (flow : Nat) (target : String) (propagator? : Option String) (carrier : String)
    (cx? : Option String) : Action Result := do
  let p ← propagatorOr propagator?
  let c ← named World.carriers carrier
  let cx ← contextOr flow cx?
  let read ← change fun w =>
    let read := p.extract c.extractor cx w.supply
    (read, read.reports.foldl World.report { w with supply := read.next })
  discard <| storeContext target read.context
  return .extracted (cx.same read.context) read.context.size read.context.hasSpan
    read.context.spanContext

end SpanFlow.Script
