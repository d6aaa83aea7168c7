import SpanFlow.Text.CaseTable

/-!
# Lower case

The full lower-case mapping of Unicode, which does not depend on a language. Each character maps
alone but two: the dotted capital I becomes two characters, and a capital sigma becomes the final
sigma where it ends a word.
-/

namespace SpanFlow.Text

/-- Whether the first character that does not count for case is cased. -/
def meetsCased (cs : List Char) : Bool :=
  match cs.dropWhile isCaseIgnorable with
  | [] => false
  | c :: _ => isCased c

/-- The capital letter sigma. -/
def capitalSigma : Char := Char.ofNat 0x3A3

/-- The lower-case form of one character, given what stands before it (nearest first) and after. -/
def lowerIn (before : List Char) (c : Char) (after : List Char) : List Char :=
  if c = capitalSigma then
    if meetsCased before && !meetsCased after then [Char.ofNat 0x3C2] else [Char.ofNat 0x3C3]
  else if c = Char.ofNat 0x130 then ['i', Char.ofNat 0x307]
  else [Char.ofNat (lowerCode c.toNat)]

/-- Lower-cases a text behind what stands before it. -/
def lowerFrom (before : List Char) : List Char → List Char
  | [] => []
  | c :: rest => lowerIn before c rest ++ lowerFrom (c :: before) rest

/-- The lower-case form of a text. -/
def lowercase (s : String) : String := String.ofList (lowerFrom [] s.toList)

end SpanFlow.Text
