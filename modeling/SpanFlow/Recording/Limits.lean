import SpanFlow.Assoc
import SpanFlow.Text.Blank
import SpanFlow.Text.Numeral
import SpanFlow.Text.Quoted
import SpanFlow.Text.Utf8

/-!
# Limits

What a span may hold: how many attributes, events and links, how many attributes on one event or
link, and how long a text may be. Limits are built field by field and checked at the end, or read
from variables of the environment.
-/

namespace SpanFlow

/-- The limits of a span; a length limit may be missing. -/
structure Limits where
  attributes : Nat
  events : Nat
  links : Nat
  eventAttributes : Nat
  linkAttributes : Nat
  valueLength : Option Nat
  deriving DecidableEq

namespace Limits

/-- The limits used unless others are named. -/
def standard : Limits := ⟨128, 128, 128, 128, 128, none⟩

/-- The fields of the limits. -/
inductive Field where
  | attributes
  | events
  | links
  | eventAttributes
  | linkAttributes
  | valueLength
  deriving DecidableEq

/-- The fields in the order in which they are checked and read. -/
def Field.all : List Field :=
  [.attributes, .events, .links, .eventAttributes, .linkAttributes, .valueLength]

/-- The name under which an error shows a field. -/
def Field.label : Field → String
  | .attributes => "max_attributes_per_span"
  | .events => "max_events_per_span"
  | .links => "max_links_per_span"
  | .eventAttributes => "max_attributes_per_event"
  | .linkAttributes => "max_attributes_per_link"
  | .valueLength => "max_attribute_value_length"

/-- The variable of the environment that sets a field. -/
def Field.variableName : Field → String
  | .attributes => "OTEL_SPAN_ATTRIBUTE_COUNT_LIMIT"
  | .events => "OTEL_SPAN_EVENT_COUNT_LIMIT"
  | .links => "OTEL_SPAN_LINK_COUNT_LIMIT"
  | .eventAttributes => "OTEL_EVENT_ATTRIBUTE_COUNT_LIMIT"
  | .linkAttributes => "OTEL_LINK_ATTRIBUTE_COUNT_LIMIT"
  | .valueLength => "OTEL_ATTRIBUTE_VALUE_LENGTH_LIMIT"

/-- The value of a field. -/
def get (l : Limits) : Field → Option Nat
  | .attributes => some l.attributes
  | .events => some l.events
  | .links => some l.links
  | .eventAttributes => some l.eventAttributes
  | .linkAttributes => some l.linkAttributes
  | .valueLength => l.valueLength

/-- Limits with one field set. -/
def set (l : Limits) (n : Nat) : Field → Limits
  | .attributes => { l with attributes := n }
  | .events => { l with events := n }
  | .links => { l with links := n }
  | .eventAttributes => { l with eventAttributes := n }
  | .linkAttributes => { l with linkAttributes := n }
  | .valueLength => { l with valueLength := some n }

/-- Limits without a length limit. -/
def unlimited (l : Limits) : Limits := { l with valueLength := none }

/-- A change of the limits that are being built. -/
inductive Setting where
  | field (f : Field) (n : Nat)
  | unlimited
  deriving DecidableEq

/-- Limits after a change. -/
def apply (l : Limits) : Setting → Limits
  | .field f n => l.set n f
  | .unlimited => l.unlimited

/-- Limits after changes in order. -/
def applyAll (l : Limits) (settings : List Setting) : Limits := settings.foldl apply l

/-- Why limits are refused. -/
inductive Error where
  | zero (field : Field)
  | variable (field : Field) (value : String)
  deriving DecidableEq

/-- The wording of an error. -/
def Error.message : Error → String
  | .zero field => "span limit `" ++ field.label ++ "` must be greater than zero"
  | .variable field value =>
    s!"environment variable {field.variableName} has invalid value {Text.quote value}"

/-- Checks that no limit is zero. -/
def build (l : Limits) : Except Error Limits :=
  match Field.all.find? fun f => l.get f == some 0 with
  | some f => .error (.zero f)
  | none => .ok l

/-! ## Limits from the environment -/

/-- Variables of the environment and the bytes they hold. -/
abbrev Environment := Assoc String (List UInt8)

/-- A positive number below 2 ^ 32 in decimal digits, with or without a plus sign before them. -/
def positive? (text : List Char) : Option Nat :=
  match Text.decimal? (Text.unsigned text) with
  | some n => if 0 < n ∧ n < Nat.pow 2 32 then some n else none
  | none => none

/-- The value that a variable gives to a field. -/
def ofVariable (field : Field) (bytes : List UInt8) : Except Error Nat :=
  match Text.Utf8.decode? bytes with
  | none => .error (.variable field (String.ofList (Text.Utf8.decodeLossy bytes)))
  | some text =>
    match positive? (Text.trim text) with
    | none => .error (.variable field (String.ofList text))
    | some n => .ok n

/-- Sets one field from the environment, if its variable is there. -/
def readField (env : Environment) (l : Limits) (field : Field) : Except Error Limits :=
  match Assoc.get? env field.variableName with
  | none => .ok l
  | some bytes => (ofVariable field bytes).map fun n => l.set n field

/-- The limits that the environment asks for. -/
def fromEnvironment (env : Environment) : Except Error Limits :=
  match Field.all.foldlM (readField env) standard with
  | .error e => .error e
  | .ok l => l.build

end Limits

end SpanFlow
