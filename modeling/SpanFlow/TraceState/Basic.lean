import SpanFlow.TraceState.Key

/-!
# Trace state

Members of vendors, each a key with a value, that travel with a trace in a fixed order and without
two of one key. There is either no list at all or a list with members.

## Main results

* `entries_ofEntries`: the members of a state made from a list are that list.
* `ofEntries_eq_iff`: states are equal just when their members are.
-/

namespace SpanFlow

/-- The members of a trace state, if there are any. -/
structure TraceState where
  members? : Option (List (String × String))
  deriving DecidableEq

/-- Why a text or a pair has no place in a trace state. -/
inductive TraceStateError where
  | key (text : String)
  | value (text : String)
  | member (text : String)
  deriving DecidableEq

namespace TraceStateError

/-- The wording of an error. -/
def message : TraceStateError → String
  | .key text => text ++ " is not a valid key in TraceState, " ++
      "see https://www.w3.org/TR/trace-context/#key for more details"
  | .value text => text ++ " is not a valid value in TraceState, " ++
      "see https://www.w3.org/TR/trace-context/#value for more details"
  | .member text => text ++ " is not a valid list member in TraceState, " ++
      "see https://www.w3.org/TR/trace-context/#list for more details"

end TraceStateError

namespace TraceState

/-- The state without members. -/
def empty : TraceState := ⟨none⟩

/-- The members in order. -/
def entries (ts : TraceState) : List (String × String) := ts.members?.getD []

/-- The state with the given members. -/
def ofEntries : List (String × String) → TraceState
  | [] => empty
  | members => ⟨some members⟩

/-- The number of members. -/
def size (ts : TraceState) : Nat := ts.entries.length

/-- The value of a key. -/
def get? (ts : TraceState) (key : String) : Option String := ts.entries.lookup key

/-- Members without the one of a key. -/
def without (key : String) (members : List (String × String)) : List (String × String) :=
  members.eraseP fun m => m.1 == key

/-- Checks a pair, its key before its value. -/
def check (key value : String) : Except TraceStateError Unit :=
  if !validKey key then .error (.key key)
  else if !validValue value then .error (.value value)
  else .ok ()

/-- Adds pairs behind the members collected so far; a repeated key moves to the end. -/
def collect (members : List (String × String)) :
    List (String × String) → Except TraceStateError (List (String × String))
  | [] => .ok members
  | (key, value) :: rest =>
    match check key value with
    | .error e => .error e
    | .ok () => collect (without key members ++ [(key, value)]) rest

/-- The state that pairs make, up to the first that has no place in one. -/
def ofPairs (pairs : List (String × String)) : Except TraceStateError TraceState :=
  (collect [] pairs).map ofEntries

/-- Puts a member in front; a member of that key gives way to it. -/
def insert (ts : TraceState) (key value : String) : Except TraceStateError TraceState :=
  (check key value).map fun _ => ofEntries ((key, value) :: without key ts.entries)

/-- Takes the member of a key out. -/
def erase (ts : TraceState) (key : String) : Except TraceStateError TraceState :=
  if validKey key then .ok (ofEntries (without key ts.entries)) else .error (.key key)

/-- The members of a state made from a list are that list. -/
@[simp] theorem entries_ofEntries (members : List (String × String)) :
    (ofEntries members).entries = members := by
  cases members <;> rfl

/-- States are equal just when their members are. -/
theorem ofEntries_eq_iff {a b : List (String × String)} : ofEntries a = ofEntries b ↔ a = b :=
  ⟨fun h => by rw [← entries_ofEntries a, h, entries_ofEntries], fun h => h ▸ rfl⟩

end TraceState

end SpanFlow
