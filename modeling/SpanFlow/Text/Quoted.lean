import SpanFlow.Text.Hex
import SpanFlow.Text.Printable

/-!
# Quoted text

The form in which descriptions show a text: in double quotes, with the five usual escapes and the
quote and the backslash behind a backslash. What cannot be shown as itself is written by number in
braces.
-/

namespace SpanFlow.Text

/-- A character inside quotes. -/
def escape (c : Char) : List Char :=
  if c = '\x00' then ['\\', '0']
  else if c = '\t' then ['\\', 't']
  else if c = '\r' then ['\\', 'r']
  else if c = '\n' then ['\\', 'n']
  else if c = '\\' then ['\\', '\\']
  else if c = '"' then ['\\', '"']
  else if isPrintable c then [c]
  else ['\\', 'u', '\x7b'] ++ Hex.minimal c.toNat ++ ['\x7d']

/-- A text in double quotes. -/
def quote (s : String) : String :=
  String.ofList ('"' :: s.toList.flatMap escape ++ ['"'])

end SpanFlow.Text
