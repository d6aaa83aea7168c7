import SpanFlow.Script.Carrying
import SpanFlow.Script.Propagation
import SpanFlow.Script.Providers

/-!
# Running scripts

A body is run step by step, each step followed by its report. When the body is done or has failed,
guards are closed, the youngest first, until no more are open than before the body. How a body
failed goes into the result of the step that ran it, and the script goes on behind that step.

Bodies run bodies, and work that runs any number of times may run itself, so the depth of running
is bounded by fuel; the fuel of `Script.run` is beyond what a script of its size reaches without
running itself.
-/

namespace SpanFlow.Script

open Session

/-- The report of a step that had a result. -/
def report (flow : Nat) (r : Result) (w : State) : Report × State :=
  let cx := w.current flow
  let (log, w) := w.takeLog
  (.of r (w.label cx) cx.size log, w)

/-- Runs steps up to the first that halts. -/
def runSteps (act : Step → Action Result) (flow : Nat) :
    Body → State → (List Report × Option Halt) × State
  | [], w => (([], none), w)
  | s :: rest, w =>
    match act s w with
    | (.error halt, w) => (([], some halt), w)
    | (.ok r, w) =>
      let (first, w) := report flow r w
      let ((others, halt?), w) := runSteps act flow rest w
      ((first :: others, halt?), w)

/-- The number of guards open on a flow. -/
def openCount (flow : Nat) (w : State) : Nat := (w.flow flow).scopes.length

/-- Closes guards of a flow, the youngest first, until no more than `count` are open. -/
def closeDownTo (count flow : Nat) (w : State) : State :=
  let youngest := (w.flow flow).scopes.take (openCount flow w - count)
  youngest.foldl (fun w s => closeScope flow s.guard w) w

/-- Runs a body on a flow, and leaves no more guards open there than it found. Only a failure is
kept in what comes back. -/
def runBody (act : Nat → Step → Action Result) : Runner := fun flow body w =>
  let found := openCount flow w
  let ((reports, halt?), w) := runSteps (act flow) flow body w
  let w := closeDownTo found flow w
  match halt? with
  | none => (.ok (.of (some reports) none), w)
  | some (.failed message) => (.ok (.of (some reports) (some message)), w)
  | some halt => (.error halt, w)

/-- Does a step on a flow. Bodies are given to `run`, and a queue is run `fuel` times at most. -/
def perform (run : Runner) (fuel : Nat) (flow : Nat) : Step → Action Result
  | .key target name => makeKey target name
  | .copyKey target key => copyKey target key
  | .sameKey a b => do
    return .flag ((← named World.keys a).id == (← named World.keys b).id)
  | .describeKey key => do return .text (← named World.keys key).describe
  | .share target value => share target value
  | .root target => storeContext target .root
  | .copy target cx => do storeContext target (← named World.contexts cx)
  | .bind target cx? key value => bind flow target cx? key value
  | .bindShared target cx key shared => bindShared target cx key shared
  | .current target => do storeContext target (← contextOr flow none)
  | .read cx? key => do
    let cx ← contextOr flow cx?
    return .text? (cx.text? (← named World.keys key))
  | .readAll cx => readAll cx
  | .readShared cx key => readShared cx key
  | .sameContext a b => do
    let a ← named World.contexts a
    return .flag (a.same (← named World.contexts b))
  | .size cx => do return .size (← named World.contexts cx).size
  | .describe cx => do return .text (← named World.contexts cx).describe
  | .attach cx guard => do attach flow (← named World.contexts cx) guard
  | .close guard => closeNamed flow guard
  | .describeGuard guard => describeGuard flow guard
  | .fail message => throw (.failed message)
  | .thread body => do return .ran (← onNewFlow fun other => run other body)
  | .installStorage => return .storeRefused .inUse
  | .wrap target cx? body once => do
    let cx ← contextOr flow cx?
    change fun w =>
      (.nothing, { w with works := Assoc.insert w.works target ⟨cx, body, once⟩ }.settle)
  | .call work => do return .ran (← callWork run flow work)
  | .callTogether work count => do return .ranTogether (← callTogether run work count)
  | .executor target cx? mode => makeExecutor target cx? mode
  | .execute executor body => do return .ran (← execute run flow executor body)
  | .runQueue => do return .ranEach (← runQueue run flow fuel)
  | .future target cx? polls => makeFuture flow target cx? polls
  | .poll future => poll run flow future
  | .stream target cx? items => makeStream flow target cx? items
  | .pollNext stream => pollNext run flow stream
  | .sink target cx? body failing? => makeSink flow target cx? body failing?
  | .callSink sink call => callSink run flow sink call
  | .takeOff kind name => takeOff kind name
  | .elapse now => elapse now
  | .request id =>
    change fun w => (.nothing, w.modifyFlow flow fun f => { f with request := id })
  | .hostGet target => do
    storeContext target (← ask fun w => w.slots.current (w.hostSlot flow))
  | .hostSet cx => do
    let cx ← named World.contexts cx
    change fun w =>
      let slot := w.hostSlot flow
      (.text (w.label (w.slots.current slot)),
        { w with slots := w.slots.replace slot cx }.settle)
  | .inertSpan target sc => makeInert target sc
  | .journaledSpan target sc => makeJournaled target sc
  | .readJournal span => readJournal span
  | .boxSpan span => boxSpan span
  | .remote target cx sc => makeRemote target cx sc
  | .withSpan target cx? span => withSpan flow target cx? span
  | .markActive guard span => markActive flow guard span
  | .hasSpan cx => do return .flag (← named World.contexts cx).hasSpan
  | .callSpan on call => callOn flow on call
  | .isRecording on => do return .recording (← isRecording flow on)
  | .spanContext on => do return .context (← identityOf flow on)
  | .describeSpan on => describeOn flow on
  | .carrier target kind items => putCarrier target (.ofItems kind items)
  | .setCarrier carrier name value => setCarrier carrier name value
  | .readCarrier carrier name => readCarrier carrier name
  | .describeAdapters => return .texts Carrier.adapterDescriptions
  | .propagator target plan described => namePropagator target plan described
  | .setGlobal plan => setGlobal plan
  | .globalFields => do return .texts (← ask World.global).fields
  | .inject propagator? carrier cx? => inject flow propagator? carrier cx?
  | .extract target propagator? carrier cx? => extract flow target propagator? carrier cx?
  | .exporter target kind => makeExporter target kind
  | .stored exporter => do return .spans (← exporterNamed exporter).2.stored
  | .clear exporter => clearExporter exporter
  | .handed exporter => handedSince exporter
  | .provider target parts described => makeProvider target parts described
  | .standardProvider target => makeStandardProvider target
  | .limitQueries provider => limitQueries provider
  | .copyProvider target provider => copyProvider target provider
  | .flush provider => onProvider provider Telemetry.flush
  | .shutdown provider => onProvider provider Telemetry.shutdown
  | .tracer target provider name => makeTracer target provider name
  | .start target tracer name cx? => startSpan flow target tracer name cx?
  | .data span => dataOf span
  | .inSpan tracer name body target? => do
    return .ran (← inSpan run flow tracer name body target?)
  | .release kind name => release kind name

/-- Does a step on a flow, with bodies inside bodies as deep as the fuel lasts. -/
def performWith : Nat → Nat → Step → Action Result
  | 0, _, _ => throw .outOfFuel
  | fuel + 1, flow, s => perform (runBody (performWith fuel)) fuel flow s

end SpanFlow.Script

namespace SpanFlow

/-- A script: its steps, what there is outside, and whether current contexts live with requests
rather than with threads. -/
structure Script where
  steps : Script.Body
  environment : Surroundings
  byRequest : Bool

namespace Script

/-- The fuel of a script. -/
def fuel : Nat := 1000000

/-- Runs a script in a session of its own. -/
def run (s : Script) : Except Halt Run :=
  (runBody (performWith fuel) Session.World.firstFlow s.steps
    (.initial s.byRequest s.environment)).1

end Script

end SpanFlow
