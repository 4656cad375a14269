/-
The classes of characters that reading prose and quoting text depend on.

Each class is a table for the whole of the standard, with the first 128 code points
answered by the rules of plain English text. The short cut is there for speed and for
proofs: a statement about words in plain letters then never meets a table.

Word boundaries are those of edition 16 of the standard, all other classes those of edition
17. So a letter of edition 17 can be part of a name, and still end a word.
-/
import Draftsman.Text.CodeRanges
import Draftsman.Text.Property.Alphanumeric
import Draftsman.Text.Property.WordMember
import Draftsman.Text.Property.Uppercase
import Draftsman.Text.Property.Lowercase
import Draftsman.Text.Property.Cased
import Draftsman.Text.Property.CaseIgnorable
import Draftsman.Text.Property.Unprintable
import Draftsman.Text.Property.Combining

set_option autoImplicit false

namespace Draftsman.Text

/-- One of the first 128 code points. -/
def isPlain (c : Char) : Bool := c.toNat < 128

/-- A letter of the 26. -/
def isPlainLetter (c : Char) : Bool := c.isAlpha

/-- A digit of the ten. -/
def isPlainDigit (c : Char) : Bool := c.isDigit

/-- A letter of the 26 or a digit of the ten. -/
def isPlainAlphanumeric (c : Char) : Bool := c.isAlphanum

/-- A letter or a number of any script. -/
def isAlphanumeric (c : Char) : Bool :=
  if isPlain c then c.isAlphanum else alphanumericRanges.contains c

/-- A character that stands inside a word when word boundaries are looked for. -/
def isWordMember (c : Char) : Bool :=
  if isPlain c then c.isAlphanum || c == '_' else wordMemberRanges.contains c

/-- A capital letter of any script. -/
def isUppercase (c : Char) : Bool :=
  if isPlain c then c.isUpper else uppercaseRanges.contains c

/-- A small letter of any script. -/
def isLowercase (c : Char) : Bool :=
  if isPlain c then c.isLower else lowercaseRanges.contains c

/-- A character that has a case. -/
def isCased (c : Char) : Bool :=
  if isPlain c then c.isAlpha else casedRanges.contains c

/-- A character that is passed over in the search for a cased neighbour. -/
def isCaseIgnorable (c : Char) : Bool := caseIgnorableRanges.contains c

/-- A character with a printed form of its own; of the separators only the space. -/
def isPrintable (c : Char) : Bool :=
  if isPlain c then 0x20 ≤ c.toNat && c.toNat < 0x7F else !unprintableRanges.contains c

/-- A character that extends the visible unit before it. -/
def isCombining (c : Char) : Bool := combiningRanges.contains c

/-! ## Text between quotes

This is how text appears in error messages. Whatever could be mistaken or could not be seen is
escaped: the quote and the backslash, the common controls by their letters, and every character
without a printed form of its own by its code point. -/

/-- A code point in braces. -/
def escapeCode (c : Char) : List Char :=
  ['\\', 'u', '\x7b'] ++ Nat.toDigits 16 c.toNat ++ ['\x7d']

/-- A character between quotes. -/
def quotedChar (c : Char) : List Char :=
  match c with
  | '\x00' => ['\\', '0']
  | '\t' => ['\\', 't']
  | '\r' => ['\\', 'r']
  | '\n' => ['\\', 'n']
  | '"' => ['\\', '"']
  | '\\' => ['\\', '\\']
  | c => if isCombining c || !isPrintable c then escapeCode c else [c]

/-- A text between quotes. -/
def quoted (s : String) : String :=
  String.ofList ('"' :: (s.toList.flatMap quotedChar ++ ['"']))

end Draftsman.Text
