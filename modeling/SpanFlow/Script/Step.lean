import SpanFlow.Script.StandIn
import SpanFlow.Session.World

/-!
# Scripts

A script is a list of steps that use the library: it derives and attaches contexts, wraps work that
is itself a list of steps, starts spans and calls on them, writes contexts to carriers and reads
them back, and sets up providers. Things are known by names, each kind of thing by names of its own.

A call on a span is made from what the clock shows, which it may take as its time. The clock shows
the same until a step says that time has passed.

Every step has a result. A step that runs a body holds the reports of its steps in its result, and
how the body failed, if it did.
-/

namespace SpanFlow.Script

open Session

/-- The span that a step calls on: one under a name, the one that a named context carries, or the
one that the current context carries. -/
inductive Target where
  | named (span : String)
  | carried (cx : String)
  | active

/-- How a script describes a propagator. -/
inductive PropagatorPlan where
  | noop
  | jaeger (header? : Option String)
  | named (name : String)
  | ofKey (key header : String) (fields? : Option (List String))
  | composite (members : List PropagatorPlan)

/-- The kinds of work from which a context can be taken off. -/
inductive CarriedKind where
  | future
  | stream
  | sink

/-- The kinds of things that can be let go by name. -/
inductive HeldKind where
  | context
  | span
  | tracer
  | provider
  | work
  | future

/-- What a script makes a provider from. -/
structure ProviderSteps where
  exporters : List String
  sampler? : Option Sampler
  ids? : Option IdSource
  limits? : Option LimitsSource

/-- A step of a script. -/
inductive Step where
  -- contexts
  | key (target name : String)
  | copyKey (target key : String)
  | sameKey (a b : String)
  | describeKey (key : String)
  | share (target value : String)
  | root (target : String)
  | copy (target cx : String)
  | bind (target : String) (cx? : Option String) (key value : String)
  | bindShared (target cx key shared : String)
  | current (target : String)
  | read (cx? : Option String) (key : String)
  | readAll (cx : String)
  | readShared (cx key : String)
  | sameContext (a b : String)
  | size (cx : String)
  | describe (cx : String)
  -- scopes
  | attach (cx guard : String)
  | close (guard : String)
  | describeGuard (guard : String)
  | fail (message : String)
  | thread (body : List Step)
  | installStorage
  -- carrying
  | wrap (target : String) (cx? : Option String) (body : List Step) (once : Bool)
  | call (work : String)
  | callTogether (work : String) (count : Nat)
  | executor (target : String) (cx? : Option String) (mode : RunMode)
  | execute (executor : String) (body : List Step)
  | runQueue
  | future (target : String) (cx? : Option String) (polls : List (List Step))
  | poll (future : String)
  | stream (target : String) (cx? : Option String) (items : List (StreamItem (List Step)))
  | pollNext (stream : String)
  | sink (target : String) (cx? : Option String) (body : List Step) (failing? : Option String)
  | callSink (sink : String) (call : SinkCall)
  | takeOff (kind : CarriedKind) (name : String)
  -- the clock
  | elapse (now : Timestamp)
  -- the host's store
  | request (id : Nat)
  | hostGet (target : String)
  | hostSet (cx : String)
  -- spans
  | inertSpan (target : String) (context : SpanContext)
  | journaledSpan (target : String) (context : SpanContext)
  | readJournal (span : String)
  | boxSpan (span : String)
  | remote (target cx : String) (context : SpanContext)
  | withSpan (target : String) (cx? : Option String) (span : String)
  | markActive (guard span : String)
  | hasSpan (cx : String)
  | callSpan (on : Target) (call : Timestamp → SpanCall)
  | isRecording (on : Target)
  | spanContext (on : Target)
  | describeSpan (on : Target)
  -- propagation
  | carrier (target : String) (kind : Carrier.Kind) (items : List (String × String))
  | setCarrier (carrier name value : String)
  | readCarrier (carrier name : String)
  | describeAdapters
  | propagator (target : String) (plan : PropagatorPlan) (described : Bool)
  | setGlobal (plan : PropagatorPlan)
  | globalFields
  | inject (propagator? : Option String) (carrier : String) (cx? : Option String)
  | extract (target : String) (propagator? : Option String) (carrier : String)
      (cx? : Option String)
  -- recording
  | exporter (target : String) (kind : Exporter.Kind)
  | stored (exporter : String)
  | clear (exporter : String)
  | handed (exporter : String)
  | provider (target : String) (parts : ProviderSteps) (described : Bool)
  | standardProvider (target : String)
  | limitQueries (provider : String)
  | copyProvider (target provider : String)
  | flush (provider : String)
  | shutdown (provider : String)
  | tracer (target provider name : String)
  | start (target tracer name : String) (cx? : Option String)
  | data (span : String)
  | inSpan (tracer name : String) (body : List Step) (target? : Option String)
  | release (kind : HeldKind) (name : String)

/-- Steps in order. -/
abbrev Body := List Step

/-- What a stream answers to a poll. -/
inductive StreamAnswer where
  | item (n : Nat)
  | pending
  | done

/-- What a sink answers to a call; nothing if the call failed half-way. -/
inductive SinkAnswer where
  | ok
  | refused (message : String)
  | none

mutual

/-- The result of a step. -/
inductive Result where
  | nothing
  | text (s : String)
  | text? (s : Option String)
  | flag (b : Bool)
  | count (n : Nat)
  | texts (ss : List String)
  | stored (size : Nat) (label : String)
  | bindings (bs : List (String × Option String))
  | shared (value? sameAs? : Option String)
  | size (n : Nat)
  | storeRefused (error : StoreError)
  | ran (run : Run)
  | ranEach (runs : List Run)
  | ranTogether (runs : List Run)
  | executor (label? : Option String) (description : String)
  | polled (run : Run) (ready? : Option Nat)
  | yielded (run : Run) (answer : StreamAnswer) (atLeast atMost : Nat)
  | sunk (run : Run) (answer : SinkAnswer) (sum? : Option Int)
  | recording (b : Bool)
  | context (sc : SpanContext)
  | entries (items : List (String × String))
  | found (value? : Option String) (all? : Option (List String)) (names : List String)
  | propagator (fields : List String) (description? : Option String)
  | extracted (same : Bool) (size : Nat) (active : Bool) (sc : SpanContext)
  | journal (entries : List JournalEntry)
  | spans (data : List SpanData)
  | data (data? : Option SpanData)
  | handed (calls : List ExporterCall)
  | answered (answer : Except ExportError Unit)
  | tracer (t : Tracer)
  | started (sc : SpanContext) (recording : Bool) (limits? : Option Limits)

/-- What a step reports: its result, the current context after it, and the diagnostics since the
report before it. -/
inductive Report where
  | of (result : Result) (current : String) (size : Nat) (log : List Diagnostic)

/-- How a body ran: the reports of its steps up to the one that failed, and how that one did. There
are no reports if no body ran. -/
inductive Run where
  | of (reports? : Option (List Report)) (failure? : Option String)

end

/-- How a body failed. -/
def Run.failure? : Run → Option String
  | .of _ failure? => failure?

/-- No body ran. -/
def Run.none : Run := .of Option.none Option.none

end SpanFlow.Script
