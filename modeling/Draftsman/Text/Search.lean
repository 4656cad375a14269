/-
Finding one text in another.

A pattern is compared with the text after a change of spelling (or none), so that the
same search serves where case counts and where it does not.
-/

set_option autoImplicit false

namespace Draftsman.Text

/-- What follows the pattern at the start of a text, if the text starts with it once its
characters are respelled. -/
def dropPattern? (respell : Char → Char) : List Char → List Char → Option (List Char)
  | [], cs => some cs
  | _ :: _, [] => none
  | p :: pattern, c :: cs => if respell c = p then dropPattern? respell pattern cs else none

/-- What follows the first occurrence of a pattern. -/
def afterFirst? (respell : Char → Char) (pattern : List Char) : List Char → Option (List Char)
  | [] => dropPattern? respell pattern []
  | c :: cs => (dropPattern? respell pattern (c :: cs)).or (afterFirst? respell pattern cs)

/-- What precedes the first occurrence of a pattern; without one, the whole text. -/
def beforeFirst (pattern : List Char) : List Char → List Char
  | [] => []
  | c :: cs =>
    if (dropPattern? id pattern (c :: cs)).isSome then [] else c :: beforeFirst pattern cs

/-- Whether a pattern occurs in a text. -/
def occurs (pattern cs : List Char) : Bool := (afterFirst? id pattern cs).isSome

/-- A text, without its first `skip` characters, in which every occurrence of a pattern
is replaced. Occurrences are found from left to right and do not overlap: after one, the
rest of its characters are skipped. -/
def replaceFrom (pattern replacement : List Char) : Nat → List Char → List Char
  | _, [] => []
  | skip + 1, _ :: cs => replaceFrom pattern replacement skip cs
  | 0, c :: cs =>
    if (dropPattern? id pattern (c :: cs)).isSome then
      replacement ++ replaceFrom pattern replacement (pattern.length - 1) cs
    else c :: replaceFrom pattern replacement 0 cs

/-- A text in which every occurrence of a pattern is replaced. -/
def replaceAll (pattern replacement cs : List Char) : List Char :=
  replaceFrom pattern replacement 0 cs

end Draftsman.Text
