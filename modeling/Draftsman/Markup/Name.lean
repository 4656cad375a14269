/-
Names and labels in diagram source.

Whatever a name holds, it must stay one token on one line. A name that is an identifier
stands for itself; any other is put between quotes where it is shown, and replaced by an
identifier where the source has to refer to it.
-/
import Draftsman.Text.Blank
import Draftsman.Text.Letters

set_option autoImplicit false

namespace Draftsman.Markup

open Draftsman.Text

/-! ## One line -/

/-- Whether a character breaks a line. -/
def isLineBreak (c : Char) : Bool := c == '\r' || c == '\n'

/-- A text on one line: its line breaks become single spaces, and the ones at its ends
vanish. -/
def oneLine (text : List Char) : List Char :=
  [' '].intercalate ((text.splitOnP isLineBreak).filter fun line => !line.isEmpty)

/-- A trimmed text on one line. -/
def tidy (text : String) : List Char := oneLine (trimChars text.toList)

/-! ## Identifiers -/

/-- A letter of the 26, in either case, a digit or an underscore. -/
def isIdentifierPart (c : Char) : Bool := isPlainAlphanumeric c || c == '_'

/-- Whether a text is an identifier: it is made of identifier characters and does not
start with a digit. -/
def isIdentifier : List Char → Bool
  | [] => false
  | c :: cs => (isPlainLetter c || c == '_') && cs.all isIdentifierPart

/-- A tidy name with underscores for the characters that no identifier has. -/
def sanitize (name : String) : List Char :=
  (tidy name).map fun c => if isIdentifierPart c then c else '_'

/-- An identifier that stands for a name. -/
def aliasOf (name : String) : List Char :=
  match sanitize name with
  | [] => ['_']
  | c :: cs => if isPlainDigit c then '_' :: c :: cs else c :: cs

/-! ## Tokens -/

/-- A text without double quotes, which would end the quotes around it. -/
def softenQuotes (text : List Char) : List Char :=
  text.map fun c => if c = '"' then '\'' else c

/-- A text between quotes. -/
def enquote (text : List Char) : List Char := '"' :: (softenQuotes text ++ ['"'])

/-- A name as it is written where names may be quoted. -/
def written (name : String) : List Char :=
  if isIdentifier (tidy name) then tidy name else enquote (tidy name)

/-- The end of a line that carries a label; without a label it is empty. -/
def labelClause (label : String) : List Char :=
  match tidy label with
  | [] => []
  | text => " : ".toList ++ text

/-! ## Identifiers of their own

An identifier is derived from a name, and different names can lead to the same one. Where no two
names may share one, the one that comes first keeps it, and the others are numbered from two
on. -/

/-- The identifier that is tried for a base after `n` others: the base itself, then the
base with a number. -/
def numbered (base : List Char) : Nat → List Char
  | 0 => base
  | n + 1 => base ++ '_' :: Nat.toDigits 10 (n + 2)

/-- The first identifier from the `n`th on that is not taken. No identifier is tried
twice, so one that is taken can be struck from the list; that is why the search ends. -/
def firstFree (base : List Char) (n : Nat) (taken : List (List Char)) : List Char :=
  if h : numbered base n ∈ taken then
    firstFree base (n + 1) (taken.erase (numbered base n))
  else numbered base n
termination_by taken.length
decreasing_by
  have := List.length_erase_of_mem h
  have := List.length_pos_of_mem h
  omega

/-- The identifier for a name with the given base. -/
def claim (base : List Char) (taken : List (List Char)) : List Char := firstFree base 0 taken

/-- Names with their identifiers, in the order of declaration. -/
abbrev Declared := List (String × List Char)

/-- Declares names one after the other. A name that has been declared is passed over.
Returned are the declared names and all identifiers taken so far. -/
def declare (base : String → List Char) (declared : Declared) (taken : List (List Char)) :
    List String → Declared × List (List Char)
  | [] => (declared, taken)
  | name :: rest =>
    if (declared.lookup name).isSome then declare base declared taken rest
    else
      let id := claim (base name) taken
      declare base (declared ++ [(name, id)]) (id :: taken) rest

/-- The identifier of a name; a name that was not declared goes by its base. -/
def Declared.identifier (declared : Declared) (base : String → List Char) (name : String) :
    List Char :=
  (declared.lookup name).getD (base name)

end Draftsman.Markup
