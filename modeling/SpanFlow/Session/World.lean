import SpanFlow.Context.Scope
import SpanFlow.Propagation.Carrier
import SpanFlow.Propagation.Propagator
import SpanFlow.Recording.Lifetime

/-!
# The state of a session

All that a program which uses this library holds at one time: contexts, spans and the rest under
names, the current contexts, the guards still open, and the work that carries a context. Pieces of
work are of a type `β` that is not looked into.

Numbers for new instances, keys, allocations, guards and flows come from one supply. A boxed span is
known by its calls alone: what it has recorded cannot be looked at any more.

## Main results

* `holdings`: everything through which a session keeps spans and providers alive.
-/

namespace SpanFlow.Session

/-- Work that runs under a context: once, or any number of times. -/
structure Work (β : Type) where
  context : Context
  body : β
  once : Bool

/-- Where an executor runs what it is given. -/
inductive RunMode where
  | inline
  | thread
  | queue
  deriving DecidableEq

/-- An executor, with the context it runs work under unless that is to be the current one. -/
structure Executor where
  context? : Option Context
  mode : RunMode

/-- Work in steps: each poll takes one. A context may be attached around each poll. -/
structure Future (β : Type) where
  context? : Option Context
  rest : List β
  finished : Nat

/-- A step of a stream; one that is pending yields nothing. -/
structure StreamItem (β : Type) where
  body : β
  pending : Bool

/-- Work in steps that yields items. -/
structure Stream (β : Type) where
  context? : Option Context
  rest : List (StreamItem β)
  yielded : Nat

/-- What a sink is called with. -/
inductive SinkCall where
  | ready
  | send (item : Int)
  | flush
  | close
  deriving DecidableEq

/-- The word for a call on a sink. -/
def SinkCall.word : SinkCall → String
  | ready => "ready"
  | send _ => "send"
  | flush => "flush"
  | close => "close"

/-- Work that takes items in; the calls of one word fail. -/
structure Sink (β : Type) where
  context? : Option Context
  body : β
  failing? : Option String
  sum : Int

/-- A guard under a name. -/
structure OpenScope where
  name : String
  guard : Nat

/-- A flow of work: the request that the host has bound it to, and its named guards, the youngest
first. -/
structure Flow where
  request : Nat
  scopes : List OpenScope

/-- A flow with nothing attached. -/
def Flow.fresh : Flow := ⟨0, []⟩

/-- The state of a session. -/
structure World (β : Type) where
  supply : Nat
  telemetry : Telemetry
  byRequest : Bool
  environment : Surroundings
  slots : Slots
  guards : Assoc Nat Guard
  flows : Assoc Nat Flow
  pins : Assoc Nat Holding
  queue : List (Context × β)
  global : Propagator
  contexts : Assoc String Context
  keys : Assoc String Key
  shared : Assoc String Binding
  works : Assoc String (Work β)
  executors : Assoc String Executor
  futures : Assoc String (Future β)
  streams : Assoc String (Stream β)
  sinks : Assoc String (Sink β)
  carriers : Assoc String Carrier
  propagators : Assoc String Propagator
  exporters : Assoc String Nat
  providers : Assoc String Nat
  tracers : Assoc String Tracer
  spans : Assoc String Nat
  boxed : List Nat
  journals : Assoc String Nat
  handed : Assoc Nat Nat

namespace World

variable {β : Type}

/-- The number of the flow on which a session begins. -/
def firstFlow : Nat := 1

/-- A session in which nothing has happened but that the clock shows something. -/
def initial (byRequest : Bool) (environment : Surroundings) : World β where
  supply := firstFlow + 1
  telemetry := Telemetry.empty.elapse environment.clock
  byRequest := byRequest
  environment := environment
  slots := []
  guards := []
  flows := [(firstFlow, .fresh)]
  pins := []
  queue := []
  global := .noop
  contexts := []
  keys := []
  shared := []
  works := []
  executors := []
  futures := []
  streams := []
  sinks := []
  carriers := []
  propagators := []
  exporters := []
  providers := []
  tracers := []
  spans := []
  boxed := []
  journals := []
  handed := []

/-- The contexts that a session keeps. -/
def contextsHeld (w : World β) : List Context :=
  w.contexts.map Prod.snd ++ w.slots.map Prod.snd ++
    w.guards.flatMap (fun g => g.2.contexts) ++
    w.works.map (fun x => x.2.context) ++
    w.executors.filterMap (fun x => x.2.context?) ++
    w.futures.filterMap (fun x => x.2.context?) ++
    w.streams.filterMap (fun x => x.2.context?) ++
    w.sinks.filterMap (fun x => x.2.context?) ++
    w.queue.map Prod.fst

/-- Everything through which a session keeps spans and providers alive. -/
def holdings (w : World β) : List Holding :=
  w.contextsHeld.map .context ++ w.pins.map Prod.snd ++ w.spans.map (fun s => .span s.2) ++
    w.tracers.map (fun t => .tracer t.2) ++ w.providers.map fun p => .provider p.2

/-- Releases what the session holds no longer. -/
def settle (w : World β) : World β := { w with telemetry := w.telemetry.settle w.holdings }

/-- Takes a number from the supply. -/
def fresh (w : World β) : Nat × World β := (w.supply, { w with supply := w.supply + 1 })

/-- Reports a diagnostic. -/
def report (w : World β) (d : Diagnostic) : World β :=
  { w with telemetry := w.telemetry.report d }

/-- Takes the diagnostics reported so far. -/
def takeLog (w : World β) : List Diagnostic × World β :=
  (w.telemetry.log, { w with telemetry := { w.telemetry with log := [] } })

/-! ## Flows and their current contexts -/

/-- A flow. -/
def flow (w : World β) (id : Nat) : Flow := (Assoc.get? w.flows id).getD .fresh

/-- Changes a flow. -/
def modifyFlow (w : World β) (id : Nat) (f : Flow → Flow) : World β :=
  { w with flows := Assoc.insert w.flows id (f (w.flow id)) }

/-- The slot of the host's store that belongs to a flow: that of its request, or one of its own. -/
def hostSlot (w : World β) (id : Nat) : Slot :=
  match (w.flow id).request with
  | 0 => .idle id
  | request => .request request

/-- The slot that holds the current context of a flow. -/
def slotOf (w : World β) (id : Nat) : Slot := if w.byRequest then w.hostSlot id else .thread id

/-- The current context of a flow. -/
def current (w : World β) (id : Nat) : Context := w.slots.current (w.slotOf id)

/-- Begins a flow with nothing attached; its number comes first. -/
def beginFlow (w : World β) : Nat × World β :=
  let (id, w) := w.fresh
  (id, { w with flows := Assoc.insert w.flows id .fresh })

/-- Ends a flow. What its own slot held is let go; slots of the host's store stay. -/
def endFlow (w : World β) (id : Nat) : World β :=
  { w with flows := Assoc.erase w.flows id, slots := Assoc.erase w.slots (.thread id) }.settle

/-! ## Scopes -/

/-- Attaches a context to a flow; the number of its guard comes first. -/
def openGuard (w : World β) (flow : Nat) (cx : Context) : Nat × World β :=
  let (id, w) := w.fresh
  let slot := w.slotOf flow
  let guard := Guard.of (w.slots.current slot) cx
  (id, { w with
    slots := w.slots.attach slot cx
    guards := Assoc.insert w.guards id guard })

/-- Closes a guard on a flow. The context that is put aside is let go before the one that the guard
had attached. -/
def closeGuard (w : World β) (flow : Nat) (id : Nat) : World β :=
  match Assoc.get? w.guards id with
  | none => w
  | some g =>
    let slot := w.slotOf flow
    let w := if g.outOfOrder (w.slots.current slot) then w.report .outOfOrderClose else w
    let w := { w with
      slots := w.slots.close slot g
      guards := Assoc.insert w.guards id ⟨none, g.attached⟩ }.settle
    { w with guards := Assoc.erase w.guards id }.settle

/-- Keeps something alive; the number under which it is kept comes first. -/
def pin (w : World β) (h : Holding) : Nat × World β :=
  let (id, w) := w.fresh
  (id, { w with pins := Assoc.insert w.pins id h })

/-- Lets go of what was kept alive. -/
def unpin (w : World β) (id : Nat) : World β := { w with pins := Assoc.erase w.pins id }.settle

/-! ## Names -/

/-- Names a context, in the place of what had that name. -/
def nameContext (w : World β) (name : String) (cx : Context) : World β :=
  { w with contexts := Assoc.insert w.contexts name cx }.settle

/-- Names a span, in the place of what had that name. -/
def nameSpan (w : World β) (name : String) (id : Nat) : World β :=
  { w with spans := Assoc.insert w.spans name id }.settle

/-- The first name, in the order of names, of a thing that passes a test. -/
def firstName? (m : Assoc String α) (test : α → Bool) : Option String :=
  ((Text.sortBy Prod.fst (m.filter fun b => test b.2)).head?).map Prod.fst

/-- How a context is shown: as the root, by its first name, or as one without a name. -/
def label (w : World β) (cx : Context) : String :=
  if cx.same .root then "root" else (firstName? w.contexts (cx.same ·)).getD "?"

end World

end SpanFlow.Session
