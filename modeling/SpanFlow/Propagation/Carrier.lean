import SpanFlow.Assoc
import SpanFlow.Text.Description
import SpanFlow.Text.Lowercase
import SpanFlow.Text.Order

/-!
# Carriers

What travels between processes beside a message: names with texts. A map keeps each name once and
writes and looks up names in lower case. A list keeps what is added in order, and gives the first
text whose name is the one asked for; a folding list does not tell the case of ASCII letters apart
when it is asked.

## Main results

* `get?_set_map`: a map gives back, under any spelling with the same lower case, what was set last.
-/

namespace SpanFlow

/-- What is asked when a carrier is read: the text under a name, all names, and all texts under a
name. -/
structure Extractor where
  get? : String → Option String
  names : List String
  getAll? : String → Option (List String)

/-- How a carrier keeps its names. -/
inductive Carrier.Kind where
  | map
  | list
  | foldingList
  deriving DecidableEq

/-- Names with texts. -/
structure Carrier where
  kind : Carrier.Kind
  items : List (String × String)

namespace Carrier

/-- The case of ASCII letters removed. -/
def asciiFolded (s : String) : String := String.ofList (s.toList.map Char.toLower)

/-- A carrier that holds names as given; a map keeps the last text of a repeated name. -/
def ofItems (kind : Kind) (items : List (String × String)) : Carrier :=
  match kind with
  | .map => ⟨.map, items.foldl (fun m item => Assoc.insert m item.1 item.2) []⟩
  | _ => ⟨kind, items⟩

/-- Writes a text under a name. -/
def set (c : Carrier) (name value : String) : Carrier :=
  match c.kind with
  | .map => ⟨.map, Assoc.insert c.items (Text.lowercase name) value⟩
  | _ => ⟨c.kind, c.items ++ [(name, value)]⟩

/-- The text under a name. -/
def get? (c : Carrier) (name : String) : Option String :=
  match c.kind with
  | .map => Assoc.get? c.items (Text.lowercase name)
  | .list => Assoc.get? c.items name
  | .foldingList =>
    (c.items.find? fun item => asciiFolded item.1 == asciiFolded name).map Prod.snd

/-- All texts under a name: the one that is given, if there is one. -/
def getAll? (c : Carrier) (name : String) : Option (List String) := (c.get? name).map fun v => [v]

/-- The names that a carrier can list, in order; lists are read through an adapter that knows
none. -/
def names (c : Carrier) : List String :=
  match c.kind with
  | .map => Text.sortBy id (c.items.map Prod.fst)
  | _ => []

/-- What can be read from a carrier. -/
def extractor (c : Carrier) : Extractor := ⟨c.get?, c.names, c.getAll?⟩

/-- The names with their texts, those of a map sorted by name. -/
def entries (c : Carrier) : List (String × String) :=
  match c.kind with
  | .map => Text.sortBy Prod.fst c.items
  | _ => c.items

/-- Writes several texts in turn. -/
def setAll (c : Carrier) (sets : List (String × String)) : Carrier :=
  sets.foldl (fun c s => c.set s.1 s.2) c

/-- The descriptions of the adapters through which a list is written and read. -/
def adapterDescriptions : List String :=
  [Text.openRecord "SetterInjector" [], Text.openRecord "GetterExtractor" []]

/-- A map gives back, under any spelling with the same lower case, what was set last. -/
theorem get?_set_map (items : List (String × String)) (name other value : String) :
    (set ⟨.map, items⟩ name value).get? other =
      if Text.lowercase name = Text.lowercase other then some value
      else get? ⟨.map, items⟩ other := by
  simp [set, get?, Assoc.get?_insert]

end Carrier

end SpanFlow
