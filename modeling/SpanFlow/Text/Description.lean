/-!
# Descriptions

The layout that all descriptions of values share: records with named fields in braces, tuples in
parentheses, lists in brackets. A record that keeps some of its fields to itself ends in two dots.
-/

namespace SpanFlow.Text

/-- Items with a comma and a blank between them. -/
def commaSeparated (items : List String) : String := ", ".intercalate items

/-- A record, as a name and braces around what it shows. -/
def braced (name : String) (shown : List String) : String :=
  name ++ " \x7b " ++ commaSeparated shown ++ " \x7d"

/-- A named field of a record. -/
def field (f : String × String) : String := f.1 ++ ": " ++ f.2

/-- A record that shows all its fields. -/
def record (name : String) (fields : List (String × String)) : String :=
  braced name (fields.map field)

/-- A record that shows some of its fields. -/
def openRecord (name : String) (fields : List (String × String)) : String :=
  braced name (fields.map field ++ [".."])

/-- A name applied to a value. -/
def tuple (name : String) (item : String) : String := name ++ "(" ++ item ++ ")"

/-- A list of values. -/
def bracketed (items : List String) : String := "[" ++ commaSeparated items ++ "]"

/-- A value that may be missing. -/
def optional (item : Option String) : String :=
  match item with
  | none => "None"
  | some text => tuple "Some" text

end SpanFlow.Text
