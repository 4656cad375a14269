/-
White space, and the ways of cutting text that depend on it.

Everything is stated on lists of characters; the wrappers on `String` at the end are
for the parts of the library that hold names and labels as strings.
-/

set_option autoImplicit false

namespace Draftsman.Text

/-! ## The blank characters -/

/-- The characters with the white-space property: the controls from tab to carriage
return, the space, next line, and the separators of every width. The zero-width space
is not one of them. -/
def isBlank (c : Char) : Bool :=
  let n := c.toNat
  (9 ≤ n && n ≤ 13) || n == 0x20 || n == 0x85 || n == 0xA0 || n == 0x1680
    || (0x2000 ≤ n && n ≤ 0x200A) || n == 0x2028 || n == 0x2029 || n == 0x202F
    || n == 0x205F || n == 0x3000

/-- Text that holds nothing but blanks, the empty text included. -/
def allBlank (cs : List Char) : Bool := cs.all isBlank

/-! ## Trimming -/

/-- The text without the blanks at its start. -/
def trimStart (cs : List Char) : List Char := cs.dropWhile isBlank

/-- The text without the final characters that satisfy `p`. -/
def dropEndWhile (p : Char → Bool) (cs : List Char) : List Char :=
  (cs.reverse.dropWhile p).reverse

/-- The text without the blanks at its end. -/
def trimEnd (cs : List Char) : List Char := dropEndWhile isBlank cs

/-- The text without the blanks at either end. -/
def trimChars (cs : List Char) : List Char := trimEnd (trimStart cs)

/-- `trimChars` on strings. -/
def trim (s : String) : String := String.ofList (trimChars s.toList)

/-! ## Words and lines -/

/-- The maximal runs of characters that are not blank. -/
def words (cs : List Char) : List (List Char) :=
  (cs.splitOnP isBlank).filter (fun w => !w.isEmpty)

/-- One line without the carriage return that may precede its line feed. -/
def dropReturn (line : List Char) : List Char :=
  match line.getLast? with
  | some '\r' => line.dropLast
  | _ => line

/-- The lines of a text, each without its line end: a line feed, or a carriage return
and a line feed. What follows the last line feed is a line only if it is not empty, and
it keeps a carriage return at its end, since no line feed follows. -/
def lines (cs : List Char) : List (List Char) :=
  let pieces := cs.splitOnP (· == '\n')
  pieces.dropLast.map dropReturn ++ (pieces.getLast?.toList).filter (fun l => !l.isEmpty)

end Draftsman.Text
