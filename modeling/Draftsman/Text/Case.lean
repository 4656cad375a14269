/-
Small letters, and comparison that ignores case.

Lowering a text is not lowering its characters one by one: the Greek capital sigma has
two small forms, and one capital (the dotted I) becomes two characters. Comparison
without case uses the coarser simple folding, which maps one character to one.
-/
import Draftsman.Text.CaseTable
import Draftsman.Text.Letters

set_option autoImplicit false

namespace Draftsman.Text

/-! ## One character -/

/-- The image of a character under the first run that holds it. -/
def applyRuns (runs : List CaseRun) (c : Char) : Char :=
  match runs.findSome? (fun run => run.apply? c.toNat) with
  | some code => Char.ofNat code
  | none => c

/-- The small form of a letter of the 26; any other character is left alone. -/
def lowerPlain (c : Char) : Char := c.toLower

/-- The small form of a character: one character, except for the dotted capital I,
whose dot becomes a mark of its own. -/
def lowerChar (c : Char) : List Char :=
  if isPlain c then [c.toLower]
  else if c == '\u0130' then ['i', '\u0307']
  else [applyRuns lowercaseRuns c]

/-- The common form of a letter and its other cases. -/
def foldChar (c : Char) : Char :=
  if isPlain c then c.toLower else applyRuns foldingRuns c

/-! ## A text -/

/-- Whether the nearest character that case does not pass over has a case. -/
def meetsCased (cs : List Char) : Bool :=
  match cs.dropWhile isCaseIgnorable with
  | [] => false
  | c :: _ => isCased c

/-- Lowers the text after `before` (given from its end). A capital sigma takes its final
form when it closes a word: something cased before it and nothing cased after. -/
def lowerAfter (before : List Char) : List Char → List Char
  | [] => []
  | c :: rest =>
    (if c == 'Σ' then [if meetsCased before && !meetsCased rest then 'ς' else 'σ']
      else lowerChar c) ++ lowerAfter (c :: before) rest

/-- The small form of a text. -/
def lowerChars (cs : List Char) : List Char := lowerAfter [] cs

/-- `lowerChars` on strings. -/
def lower (s : String) : String := String.ofList (lowerChars s.toList)

/-- The text with the capitals of the 26 letters made small and nothing else changed. -/
def lowerPlainText (s : String) : String := String.ofList (s.toList.map lowerPlain)

end Draftsman.Text
