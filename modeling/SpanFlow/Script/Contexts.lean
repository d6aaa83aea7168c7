import SpanFlow.Script.Action

/-!
# Steps on contexts and scopes

Deriving and reading contexts, attaching them, and closing the guards.
-/

namespace SpanFlow.Script

open Session

/-- Makes a key; its name is the result. -/
def makeKey (target name : String) : Action Result := do
  let id ← freshNumber
  change fun w => (.text name, { w with keys := Assoc.insert w.keys target ⟨id, name⟩ })

/-- Names a key again. -/
def copyKey (target key : String) : Action Result := do
  let k ← named World.keys key
  change fun w => (.text k.name, { w with keys := Assoc.insert w.keys target k })

/-- Allocates a text that contexts can share. -/
def share (target value : String) : Action Result := do
  let id ← freshNumber
  change fun w =>
    (.nothing, { w with shared := Assoc.insert w.shared target ⟨id, .text value⟩ })

/-- Binds a key to a text. -/
def bind (flow : Nat) (target : String) (cx? : Option String) (key value : String) :
    Action Result := do
  let cx ← contextOr flow cx?
  let k ← named World.keys key
  let id ← freshNumber
  storeContext target (cx.withValue id k.id (.text value))

/-- Binds a key to a shared text. -/
def bindShared (target cx key shared : String) : Action Result := do
  let cx ← named World.contexts cx
  let k ← named World.keys key
  let b ← named World.shared shared
  let id ← freshNumber
  storeContext target (cx.withShared id k.id b)

/-- Reads the texts of all keys that have names. -/
def readAll (cx : String) : Action Result := do
  let cx ← named World.contexts cx
  ask fun w => .bindings (w.keys.map fun k => (k.1, cx.text? k.2))

/-- Reads a text and tells the first name under which it is shared. -/
def readShared (cx key : String) : Action Result := do
  let cx ← named World.contexts cx
  let k ← named World.keys key
  match cx.binding? k.id with
  | none => return .shared none none
  | some b =>
    ask fun w =>
      .shared (cx.text? k) (World.firstName? w.shared fun s => s.allocation == b.allocation)

/-- Puts a guard on top of the named guards of a flow. -/
def pushScope (flow : Nat) (name : String) (guard : Nat) (w : State) : State :=
  w.modifyFlow flow fun f => { f with scopes := ⟨name, guard⟩ :: f.scopes }

/-- Attaches a context and names its guard. -/
def attach (flow : Nat) (cx : Context) (guard : String) : Action Result := do
  let id ← change fun w => w.openGuard flow cx
  change fun w => (.nothing, pushScope flow guard id w)

/-- The youngest guard of a name on a flow. -/
def scopeNamed (flow : Nat) (name : String) : Action OpenScope := do
  match (← ask fun w => (w.flow flow).scopes.find? fun s => s.name == name) with
  | some s => return s
  | none => throw (.unknownName name)

/-- Takes a guard from the named guards of a flow and closes it. -/
def closeScope (flow : Nat) (guard : Nat) (w : State) : State :=
  (w.modifyFlow flow fun f => { f with scopes := f.scopes.filter fun s => s.guard != guard })
    |>.closeGuard flow guard

/-- Closes the youngest guard of a name. -/
def closeNamed (flow : Nat) (name : String) : Action Result := do
  let s ← scopeNamed flow name
  change fun w => (.nothing, closeScope flow s.guard w)

/-- Describes the youngest guard of a name. -/
def describeGuard (flow : Nat) (name : String) : Action Result := do
  let s ← scopeNamed flow name
  match (← ask fun w => Assoc.get? w.guards s.guard) with
  | some g => return .text g.describe
  | none => throw (.unknownName name)

end SpanFlow.Script
