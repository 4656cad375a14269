/-
Sets of characters, given by the code points at which membership changes.

A character property of the standard is a few hundred ranges of code points. Listing
the bounds of those ranges in increasing order turns membership into one question
about a number: how many bounds lie at or below the code point? An odd count means
that the last range entered has not been left yet.
-/

set_option autoImplicit false

namespace Draftsman.Text

/-- A set of characters. The bounds increase; the ones at even positions open a range
and the ones at odd positions are the first code point after it. -/
structure CodeRanges where
  bounds : Array Nat

namespace CodeRanges

/-- The first position from `lo` up to `hi` whose bound exceeds `code`, by halving.
The bounds increase, so this is also the number of bounds that are at most `code`
once `lo` is `0` and `hi` is the number of bounds. -/
def rank (ranges : CodeRanges) (code lo hi : Nat) : Nat :=
  if lo < hi then
    let mid := (lo + hi) / 2
    if ranges.bounds.getD mid 0 ≤ code then rank ranges code (mid + 1) hi
    else rank ranges code lo mid
  else lo
termination_by hi - lo

/-- A character belongs to the set when the number of bounds at or below it is odd. -/
def contains (ranges : CodeRanges) (c : Char) : Bool :=
  rank ranges c.toNat 0 ranges.bounds.size % 2 == 1

end CodeRanges

end Draftsman.Text
