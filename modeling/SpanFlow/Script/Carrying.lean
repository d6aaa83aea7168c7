import SpanFlow.Script.Action

/-!
# Steps that carry contexts into work

Wrapped work, executors, and work in steps. Each kind takes a context along when it is made, or
when it is handed over, and attaches it around its own running and around nothing else.
-/

namespace SpanFlow.Script

open Session

/-- Runs work under its context. Work that can run again is kept alive while it runs. -/
def callWork (run : Runner) (flow : Nat) (name : String) : Action Run := do
  let work ← named World.works name
  if work.once then
    modify fun w => { w with works := Assoc.erase w.works name }
    under flow work.context (run flow work.body)
  else
    keeping (.context work.context) (under flow work.context (run flow work.body))

/-- Runs work on several new flows, one after the other. -/
def callTogether (run : Runner) (name : String) : Nat → Action (List Run)
  | 0 => return []
  | count + 1 => do
    let first ← onNewFlow fun flow => callWork run flow name
    let others ← callTogether run name count
    return first :: others

/-- Makes an executor. -/
def makeExecutor (target : String) (cx? : Option String) (mode : RunMode) : Action Result := do
  let context? ← cx?.mapM (named World.contexts)
  change fun w =>
    let w := { w with executors := Assoc.insert w.executors target ⟨context?, mode⟩ }.settle
    match context? with
    | some cx =>
      (.executor (w.label cx) (Text.openRecord "ContextExecutor" [("cx", cx.describe)]), w)
    | none => (.executor none (Text.openRecord "CurrentContextExecutor" []), w)

/-- Hands a body to an executor: it runs at once, on a new flow, or when the queue is run. -/
def execute (run : Runner) (flow : Nat) (name : String) (body : Body) : Action Run := do
  let executor ← named World.executors name
  let cx ← match executor.context? with
    | some cx => pure cx
    | none => ask fun w => w.current flow
  match executor.mode with
  | .inline => keeping (.context cx) (under flow cx (run flow body))
  | .thread =>
    keeping (.context cx) (onNewFlow fun other => under other cx (run other body))
  | .queue =>
    modify fun w => { w with queue := w.queue ++ [(cx, body)] }
    return .none

/-- Runs queued work, also what is queued meanwhile, until the queue is empty. -/
def runQueue (run : Runner) (flow : Nat) : Nat → Action (List Run)
  | 0 => throw .outOfFuel
  | fuel + 1 => do
    match (← get).queue with
    | [] => return []
    | (cx, body) :: rest =>
      let guard ← change fun w => { w with queue := rest }.openGuard flow cx
      let first ← always (run flow body) fun w => w.closeGuard flow guard
      let others ← runQueue run flow fuel
      return first :: others

/-! ## Work in steps -/

/-- Makes work in steps. -/
def makeFuture (flow : Nat) (target : String) (cx? : Option String) (polls : List Body) :
    Action Result := do
  let cx ← contextOr flow cx?
  change fun w =>
    let w := { w with futures := Assoc.insert w.futures target ⟨some cx, polls, 0⟩ }.settle
    (.text (w.label cx), w)

/-- Changes the future under a name, if there is still one. -/
def modifyFuture (name : String) (f : Future Body → Future Body) (w : State) : State :=
  match Assoc.get? w.futures name with
  | some x => { w with futures := Assoc.insert w.futures name (f x) }
  | none => w

/-- Takes one step. A step that fails is used up and not counted. -/
def poll (run : Runner) (flow : Nat) (name : String) : Action Result := do
  let future ← named World.futures name
  match future.rest with
  | [] =>
    let done ← underOptional flow future.context? (pure future.finished)
    return .polled .none (some done)
  | body :: rest =>
    modify (modifyFuture name fun x => { x with rest := rest })
    let ran ← underOptional flow future.context? (run flow body)
    if ran.failure?.isSome then return .polled ran none
    modify (modifyFuture name fun x => { x with finished := x.finished + 1 })
    return .polled ran (if rest.isEmpty then some (future.finished + 1) else none)

/-- Makes a stream. -/
def makeStream (flow : Nat) (target : String) (cx? : Option String)
    (items : List (StreamItem Body)) : Action Result := do
  let cx ← contextOr flow cx?
  change fun w =>
    let w := { w with streams := Assoc.insert w.streams target ⟨some cx, items, 0⟩ }.settle
    (.text (w.label cx), w)

/-- The bounds on the items a stream still yields. -/
def hint (items : List (StreamItem Body)) : Nat × Nat :=
  ((items.filter fun i => !i.pending).length, items.length)

/-- Changes the stream under a name. -/
def modifyStream (name : String) (f : Stream Body → Stream Body) (w : State) : State :=
  match Assoc.get? w.streams name with
  | some x => { w with streams := Assoc.insert w.streams name (f x) }
  | none => w

/-- Asks a stream for an item. A step that fails is used up and yields nothing. -/
def pollNext (run : Runner) (flow : Nat) (name : String) : Action Result := do
  let stream ← named World.streams name
  match stream.rest with
  | [] =>
    underOptional flow stream.context? (pure ())
    return .yielded .none .done 0 0
  | item :: rest =>
    let (atLeast, atMost) := hint rest
    modify (modifyStream name fun x => { x with rest := rest })
    let ran ← underOptional flow stream.context? (run flow item.body)
    if ran.failure?.isSome || item.pending then return .yielded ran .pending atLeast atMost
    modify (modifyStream name fun x => { x with yielded := x.yielded + 1 })
    return .yielded ran (.item (stream.yielded + 1)) atLeast atMost

/-- Makes a sink. -/
def makeSink (flow : Nat) (target : String) (cx? : Option String) (body : Body)
    (failing? : Option String) : Action Result := do
  let cx ← contextOr flow cx?
  change fun w =>
    let w := { w with sinks := Assoc.insert w.sinks target ⟨some cx, body, failing?, 0⟩ }.settle
    (.text (w.label cx), w)

/-- The sum of a sink after a call. -/
def sumAfter (sum : Int) : SinkCall → Int
  | .send item => sum + item
  | _ => sum

/-- Calls a sink. An item is taken in before the body runs. The sum is told once the context has
been taken off. -/
def callSink (run : Runner) (flow : Nat) (name : String) (call : SinkCall) : Action Result := do
  let sink ← named World.sinks name
  let sum := sumAfter sink.sum call
  modify fun w => { w with sinks := Assoc.insert w.sinks name { sink with sum := sum } }
  let ran ← underOptional flow sink.context? (run flow sink.body)
  let answer : SinkAnswer :=
    if ran.failure?.isSome then .none
    else if sink.failing? = some call.word then .refused (call.word ++ " failed")
    else .ok
  return .sunk ran answer (if sink.context?.isNone then some sum else none)

/-- Takes the context off work in steps. -/
def takeOff (kind : CarriedKind) (name : String) : Action Result := do
  match kind with
  | .future =>
    let x ← named World.futures name
    modify fun w =>
      { w with futures := Assoc.insert w.futures name { x with context? := none } }.settle
  | .stream =>
    let x ← named World.streams name
    modify fun w =>
      { w with streams := Assoc.insert w.streams name { x with context? := none } }.settle
  | .sink =>
    let x ← named World.sinks name
    modify fun w =>
      { w with sinks := Assoc.insert w.sinks name { x with context? := none } }.settle
  return .nothing

end SpanFlow.Script
