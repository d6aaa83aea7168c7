import SpanFlow.Script.Step

/-!
# Actions of a script

An action changes a session and either has a result or halts. It halts by failing with a message,
which a script does on purpose, by naming something that is not there, or by running out of fuel.
What it changed before it halted stays changed.
-/

namespace SpanFlow.Script

open Session

/-- A session whose work is made of steps. -/
abbrev State := World Body

/-- Why an action has no result. -/
inductive Halt where
  | failed (message : String)
  | unknownName (name : String)
  | outOfFuel
  deriving DecidableEq

/-- A change of a session that may halt. -/
abbrev Action (α : Type) := ExceptT Halt (StateM State) α

/-- Runs bodies: on a flow, with what is reported about them. -/
abbrev Runner := Nat → Body → Action Run

/-- Does an action and, whether it halts or not, changes the session at the end. -/
def always (act : Action α) (atEnd : State → State) : Action α := fun w =>
  let (result, w) := act w
  (result, atEnd w)

/-- Reads from the session. -/
def ask (f : State → α) : Action α := do return f (← get)

/-- Changes the session, with a result. -/
def change (f : State → α × State) : Action α := modifyGet f

/-- The thing under a name. -/
def named (m : State → Assoc String α) (name : String) : Action α := do
  match Assoc.get? (m (← get)) name with
  | some x => return x
  | none => throw (.unknownName name)

/-- The context under a name, or the current one of a flow. -/
def contextOr (flow : Nat) (cx? : Option String) : Action Context :=
  match cx? with
  | some name => named World.contexts name
  | none => ask fun w => w.current flow

/-- Takes a number from the supply. -/
def freshNumber : Action Nat := change World.fresh

/-- Names a context; the result shows it under the names from before. -/
def storeContext (target : String) (cx : Context) : Action Result :=
  change fun w => (.stored cx.size (w.label cx), w.nameContext target cx)

/-- Does an action while a context is attached to a flow. -/
def under (flow : Nat) (cx : Context) (act : Action α) : Action α := do
  let guard ← change fun w => w.openGuard flow cx
  always act fun w => w.closeGuard flow guard

/-- Does an action under a context, or as things are if there is none. -/
def underOptional (flow : Nat) (cx? : Option Context) (act : Action α) : Action α :=
  match cx? with
  | some cx => under flow cx act
  | none => act

/-- Does an action while something is kept alive. -/
def keeping (h : Holding) (act : Action α) : Action α := do
  let pin ← change fun w => w.pin h
  always act fun w => w.unpin pin

/-- Does an action on a new flow, which ends with it. -/
def onNewFlow (act : Nat → Action α) : Action α := do
  let flow ← change World.beginFlow
  always (act flow) fun w => w.endFlow flow

end SpanFlow.Script
