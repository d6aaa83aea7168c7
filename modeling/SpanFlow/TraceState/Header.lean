import SpanFlow.Text.Blank
import SpanFlow.Text.Description
import SpanFlow.Text.Fields
import SpanFlow.Text.Quoted
import SpanFlow.TraceState.Basic

/-!
# The header of a trace state

The members as one text, each key joined to its value and the members to each other, and the
reading of such a text. Blank members are skipped and blanks around a member do not count. A member
without `=` is found before any key or value is judged.

## Main results

* `members_nil`: an empty header has no members.
-/

namespace SpanFlow.TraceState

/-- The members as a text, with the given signs between key and value and between members. -/
def joined (ts : TraceState) (pairSign listSign : String) : String :=
  String.ofList <| listSign.toList.intercalate <|
    ts.entries.map fun m => m.1.toList ++ pairSign.toList ++ m.2.toList

/-- The header. -/
def header (ts : TraceState) : String := ts.joined "=" ","

/-- The members of a header that are not blank, trimmed. -/
def members (text : List Char) : List (List Char) :=
  ((Text.splitOn ',' text).map Text.trim).filter fun m => !m.isEmpty

/-- A member as a pair, cut at its first `=`. -/
def pairOf (member : List Char) : Except TraceStateError (String × String) :=
  match Text.cutAt '=' member with
  | none => .error (.member (String.ofList member))
  | some (key, value) => .ok (String.ofList key, String.ofList value)

/-- Reads a header. -/
def parse (text : String) : Except TraceStateError TraceState :=
  match (members text.toList).mapM pairOf with
  | .error e => .error e
  | .ok pairs => ofPairs pairs

/-- The description of a trace state. -/
def describe (ts : TraceState) : String :=
  let pair (m : String × String) := "(" ++ Text.quote m.1 ++ ", " ++ Text.quote m.2 ++ ")"
  Text.tuple "TraceState"
    (Text.optional (ts.members?.map fun ms => Text.bracketed (ms.map pair)))

/-- An empty header has no members. -/
theorem members_nil : members [] = [] := by
  simp [members, Text.splitOn, Text.trim, Text.trimRight]

end SpanFlow.TraceState
