/-
Fragments of HTML as trees.

A fragment becomes text only here, so tags are balanced and text is escaped whatever a
fragment is made of. Elements have no attributes.
-/

set_option autoImplicit false

namespace Draftsman.Explanation

/-- The elements that explanations are made of. -/
inductive Tag where
  | h3 | h4 | p | ul | ol | li | strong | em | code | i
deriving DecidableEq, Repr

/-- The name of an element. -/
def Tag.name : Tag → String
  | h3 => "h3"
  | h4 => "h4"
  | p => "p"
  | ul => "ul"
  | ol => "ol"
  | li => "li"
  | strong => "strong"
  | em => "em"
  | code => "code"
  | i => "i"

/-- A piece of a fragment. -/
inductive Html where
  | text (content : String)
  | element (tag : Tag) (children : List Html)
deriving Repr

/-- A character of a text, replaced by an entity if it could be taken for markup. -/
def escapeChar (c : Char) : List Char :=
  match c with
  | '&' => "&amp;".toList
  | '<' => "&lt;".toList
  | '>' => "&gt;".toList
  | '"' => "&quot;".toList
  | c => [c]

/-- A text within a fragment. -/
def escape (text : String) : List Char := text.toList.flatMap escapeChar

/-- The tag that opens an element. -/
def Tag.opening (tag : Tag) : List Char := '<' :: (tag.name.toList ++ ['>'])

/-- The tag that closes an element. -/
def Tag.closing (tag : Tag) : List Char := '<' :: '/' :: (tag.name.toList ++ ['>'])

mutual

/-- The text of a piece. -/
def Html.chars : Html → List Char
  | .text content => escape content
  | .element tag children => tag.opening ++ charsOfList children ++ tag.closing

/-- The text of pieces one after the other. -/
def Html.charsOfList : List Html → List Char
  | [] => []
  | piece :: rest => piece.chars ++ charsOfList rest

end

/-- A fragment. -/
abbrev Fragment := List Html

/-- The text of a fragment. -/
def Fragment.render (f : Fragment) : String := String.ofList (Html.charsOfList f)

end Draftsman.Explanation
