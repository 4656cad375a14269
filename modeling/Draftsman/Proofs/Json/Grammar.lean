/-
The grammar of JSON texts.

The parser says which texts are JSON by reading them; here the same is said without any
reading, as a grammar over whole pieces of text. It asks for less than the parser: nesting
has no limit, a number may be of any size, and the code of half a character may stand
alone. What holds of every derivation therefore holds of every text that is read.

The nonterminals are those of the usual presentation: an element is a value with white
space around it, and a text is one element.
-/
import Draftsman.Json.Scan
import Mathlib.Data.List.TakeWhile

set_option autoImplicit false

namespace Draftsman.Json.Grammar

/-! ## Leaves -/

/-- White space, none included. -/
def IsSpaces (w : List Char) : Prop := ∀ c ∈ w, isSpace c = true

/-- A hexadecimal digit. -/
def isHexDigit (c : Char) : Bool :=
  c.isDigit || ('a' ≤ c && c ≤ 'f') || ('A' ≤ c && c ≤ 'F')

/-- One character of a string literal as it is written: by itself, or by an escape of one
letter or of four digits. -/
inductive LiteralChar : List Char → Prop
  | plain {c : Char} (hquote : c ≠ '"') (hbackslash : c ≠ '\\') (hcontrol : 0x20 ≤ c.toNat) :
      LiteralChar [c]
  | escape {c : Char} (h : c ∈ ['"', '\\', '/', 'b', 'f', 'n', 'r', 't']) : LiteralChar ['\\', c]
  | code {a b c d : Char} (h : ∀ x ∈ [a, b, c, d], isHexDigit x = true) :
      LiteralChar ['\\', 'u', a, b, c, d]

/-- What stands between the quotes of a string literal. -/
inductive LiteralBody : List Char → Prop
  | nil : LiteralBody []
  | cons {x body : List Char} : LiteralChar x → LiteralBody body → LiteralBody (x ++ body)

/-- A string literal. -/
inductive Literal : List Char → Prop
  | mk {body : List Char} : LiteralBody body → Literal ('"' :: (body ++ ['"']))

/-- At least one digit. -/
structure IsDigits (ds : List Char) : Prop where
  ne_nil : ds ≠ []
  isDigit : ∀ d ∈ ds, d.isDigit = true

/-- The digits before the point, without leading zeros. -/
inductive Whole : List Char → Prop
  | zero : Whole ['0']
  | digits {d : Char} {ds : List Char} (hzero : d ≠ '0') (h : IsDigits (d :: ds)) : Whole (d :: ds)

/-- The point and the digits after it, or nothing. -/
inductive Fraction : List Char → Prop
  | none : Fraction []
  | digits {ds : List Char} : IsDigits ds → Fraction ('.' :: ds)

/-- The exponent with its letter and its sign, or nothing. The sign may be left out. -/
inductive Exponent : List Char → Prop
  | none : Exponent []
  | digits {e : Char} {sign ds : List Char} (he : e = 'e' ∨ e = 'E')
      (hsign : sign = [] ∨ sign = ['+'] ∨ sign = ['-']) : IsDigits ds → Exponent (e :: (sign ++ ds))

/-- A number. -/
inductive NumberText : List Char → Prop
  | mk {sign whole fraction exponent : List Char} (hsign : sign = [] ∨ sign = ['-']) :
      Whole whole → Fraction fraction → Exponent exponent →
        NumberText (sign ++ (whole ++ (fraction ++ exponent)))

/-! ## Phrases -/

/-- The nonterminals. -/
inductive Phrase where
  | object
  | value
  | element
  | elements
  | member
  | members
deriving DecidableEq, Repr

/-- The pieces of text that a nonterminal stands for. -/
inductive Derives : Phrase → List Char → Prop
  | null : Derives .value ['n', 'u', 'l', 'l']
  | true : Derives .value ['t', 'r', 'u', 'e']
  | false : Derives .value ['f', 'a', 'l', 's', 'e']
  | number {t : List Char} : NumberText t → Derives .value t
  | string {t : List Char} : Literal t → Derives .value t
  | emptyArray {w : List Char} : IsSpaces w → Derives .value ('[' :: (w ++ [']']))
  | array {t : List Char} : Derives .elements t → Derives .value ('[' :: (t ++ [']']))
  | ofObject {t : List Char} : Derives .object t → Derives .value t
  | emptyObject {w : List Char} : IsSpaces w → Derives .object ('{' :: (w ++ ['}']))
  | object {t : List Char} : Derives .members t → Derives .object ('{' :: (t ++ ['}']))
  | element {w t w' : List Char} : IsSpaces w → Derives .value t → IsSpaces w' →
      Derives .element (w ++ (t ++ w'))
  | lastElement {t : List Char} : Derives .element t → Derives .elements t
  | consElement {t u : List Char} : Derives .element t → Derives .elements u →
      Derives .elements (t ++ ',' :: u)
  | member {w k w' t : List Char} : IsSpaces w → Literal k → IsSpaces w' → Derives .element t →
      Derives .member (w ++ (k ++ (w' ++ ':' :: t)))
  | lastMember {t : List Char} : Derives .member t → Derives .members t
  | consMember {t u : List Char} : Derives .member t → Derives .members u →
      Derives .members (t ++ ',' :: u)

/-- A valid JSON text. -/
def IsText (t : List Char) : Prop := Derives .element t

/-! ## White space -/

theorem isSpaces_nil : IsSpaces [] := fun _ h => absurd h List.not_mem_nil

theorem IsSpaces.append {w w' : List Char} (hw : IsSpaces w) (hw' : IsSpaces w') :
    IsSpaces (w ++ w') := fun c hc => (List.mem_append.mp hc).elim (hw c) (hw' c)

/-- A text is white space and what is left without it. -/
theorem exists_eq_append_skipSpace (cs : List Char) :
    ∃ w, IsSpaces w ∧ cs = w ++ skipSpace cs :=
  ⟨cs.takeWhile isSpace, fun _ hc => List.mem_takeWhile_imp hc,
    List.takeWhile_append_dropWhile.symm⟩

theorem isSpaces_of_skipSpace_eq_nil {cs : List Char} (h : skipSpace cs = []) : IsSpaces cs := by
  obtain ⟨w, hw, heq⟩ := exists_eq_append_skipSpace cs
  rw [h, List.append_nil] at heq
  exact heq ▸ hw

/-- White space before an element is part of it. -/
theorem Derives.prepend {t w : List Char} (h : Derives .element t) (hw : IsSpaces w) :
    Derives .element (w ++ t) := by
  cases h with
  | element hw' ht hw'' =>
    rw [← List.append_assoc]
    exact .element (hw.append hw') ht hw''

/-! ## Objects -/

/-- An object begins with its opening brace and ends with its closing one. -/
theorem Derives.object_shape {t : List Char} (h : Derives .object t) :
    ∃ body, t = '{' :: (body ++ ['}']) := by
  cases h with
  | emptyObject hw => exact ⟨_, rfl⟩
  | object hmembers => exact ⟨_, rfl⟩

end Draftsman.Json.Grammar
