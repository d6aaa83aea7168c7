import SpanFlow.Script.Contexts

/-!
# Steps on spans

Making spans, handing them to contexts, and calling on them: directly, or through a context that
carries them.
-/

namespace SpanFlow.Script

open Session

/-- Adds a span to a session and names it. -/
def addSpan (target : String) (s : Span) (w : State) : State :=
  let (t, id) := w.telemetry.addSpan s
  { w with telemetry := t }.nameSpan target id

/-- Makes a span that does nothing. -/
def makeInert (target : String) (sc : SpanContext) : Action Result :=
  change fun w => (.nothing, addSpan target (.fresh sc .inert) w)

/-- Makes a span that keeps a journal. -/
def makeJournaled (target : String) (sc : SpanContext) : Action Result :=
  change fun w =>
    let (t, journal) := w.telemetry.addJournal
    let w := { w with telemetry := t, journals := Assoc.insert w.journals target journal }
    (.nothing, addSpan target (.fresh sc (.journaled journal false)) w)

/-- Boxes a span. -/
def boxSpan (name : String) : Action Result := do
  let id ← named World.spans name
  change fun w => (.nothing, { w with boxed := id :: w.boxed })

/-- Takes what a journal has gained since it was last read. -/
def readJournal (name : String) : Action Result := do
  let id ← named World.journals name
  change fun w =>
    let entries := (w.telemetry.journals[id]?).getD []
    let journals := w.telemetry.journals.set id []
    (.journal entries, { w with telemetry := { w.telemetry with journals := journals } })

/-- Takes a span from its name and gives the reference under which a context carries it. -/
def takeSpan (name : String) : Action ActiveSpan := do
  let id ← named World.spans name
  change fun w => (w.telemetry.activeSpan id, { w with spans := Assoc.erase w.spans name })

/-- Hands a span to a new context. -/
def withSpan (flow : Nat) (target : String) (cx? : Option String) (span : String) :
    Action Result := do
  let cx ← contextOr flow cx?
  let active ← takeSpan span
  let id ← freshNumber
  storeContext target (cx.withSpan id active)

/-- Makes a span the active one: attaches a context that carries it. -/
def markActive (flow : Nat) (guard span : String) : Action Result := do
  let cx ← contextOr flow none
  let active ← takeSpan span
  let id ← freshNumber
  attach flow (cx.withSpan id active) guard

/-- Makes a context that carries the identity of a span elsewhere. -/
def makeRemote (target cx : String) (sc : SpanContext) : Action Result := do
  let cx ← named World.contexts cx
  let id ← freshNumber
  storeContext target (cx.withRemote id sc)

/-- The span that a named context, or the current one, carries. -/
def carriedBy (flow : Nat) (cx? : Option String) : Action ActiveSpan :=
  Context.activeSpan <$> contextOr flow cx?

/-- Passes on what a call on a span did; a call that failed half-way fails the step. -/
def passOn (act : Telemetry → Telemetry × Option String) : Action Unit := do
  let failure? ← change fun w =>
    let (t, failure?) := act w.telemetry
    (failure?, { w with telemetry := t })
  match failure? with
  | some message => throw (.failed message)
  | none => return ()

/-- Lets time pass, after which the clock shows something else. -/
def elapse (now : Timestamp) : Action Result :=
  change fun w => (.nothing, { w with telemetry := w.telemetry.elapse now })

/-- Whether a target records. -/
def isRecording (flow : Nat) : Target → Action Bool
  | .named name => do
    let id ← named World.spans name
    ask fun w => w.telemetry.isRecording id
  | .carried cx => do
    let active ← carriedBy flow (some cx)
    ask fun w => w.telemetry.isActiveRecording active
  | .active => do
    let active ← carriedBy flow none
    ask fun w => w.telemetry.isActiveRecording active

/-- Calls on a target, and tells whether it records afterwards. -/
def callOn (flow : Nat) (on : Target) (call : Timestamp → SpanCall) : Action Result := do
  match on with
  | .named name =>
    let id ← named World.spans name
    passOn fun t => t.call id (call t.now)
  | .carried cx =>
    let active ← carriedBy flow (some cx)
    passOn fun t => t.callActive active (call t.now)
  | .active =>
    let active ← carriedBy flow none
    passOn fun t => t.callActive active (call t.now)
  return .recording (← isRecording flow on)

/-- The identity of a target. -/
def identityOf (flow : Nat) : Target → Action SpanContext
  | .named name => do
    let id ← named World.spans name
    ask fun w => (w.telemetry.activeSpan id).context
  | .carried cx => ActiveSpan.context <$> carriedBy flow (some cx)
  | .active => ActiveSpan.context <$> carriedBy flow none

/-- Describes the reference to the span of a context. -/
def describeOn (flow : Nat) : Target → Action Result
  | .named name => throw (.unknownName name)
  | .carried cx => (fun active => .text active.describe) <$> carriedBy flow (some cx)
  | .active => (fun active => .text active.describe) <$> carriedBy flow none

end SpanFlow.Script
