/-
How many: quantifier words around two class names.

A sentence such as "one Customer places many Orders" says that the relationship goes from
one to many. It is recognised by four words in order (a quantifier, the first name, a
quantifier, the second name), with anything between them, letters compared without case,
and each at word boundaries on both sides.
-/
import Draftsman.Diagram.Kind
import Draftsman.Text.Letters
import Draftsman.Text.Case

set_option autoImplicit false

namespace Draftsman.Extraction

open Draftsman.Text

/-! ## Finding words -/

/-- A word boundary: of the two neighbours exactly one is a member of a word. -/
def atBoundary (before after : Option Char) : Bool :=
  before.any isWordMember != after.any isWordMember

/-- A place in a text: the character before it, if any, and the text after it. -/
structure Place where
  before : Option Char
  after : List Char

/-- The place is at a word boundary. -/
def Place.isBoundary (p : Place) : Bool := atBoundary p.before p.after.head?

/-- The place after `pattern`, if the text goes on with it, case ignored. -/
def Place.skip? (before : Option Char) : List Char → List Char → Option Place
  | [], text => some ⟨before, text⟩
  | _ :: _, [] => none
  | p :: pattern, c :: text =>
    if foldChar p == foldChar c then Place.skip? (some c) pattern text else none

/-- The place after `pattern`, if the text goes on with it and both its ends are at word
boundaries. -/
def Place.word? (pattern : List Char) (p : Place) : Option Place :=
  if p.isBoundary then
    (Place.skip? p.before pattern p.after).filter Place.isBoundary
  else none

/-- The place after the first occurrence of `pattern` as a word in `text`. -/
def firstWord? (pattern : List Char) (before : Option Char) : List Char → Option Place
  | [] => Place.word? pattern ⟨before, []⟩
  | c :: text =>
    Place.word? pattern ⟨before, c :: text⟩ <|> firstWord? pattern (some c) text

/-- Whether the patterns occur as words one after the other. Taking the first occurrence
of each leaves the most text for those that follow, so nothing is missed. -/
def occurInOrder : List (List Char) → Place → Bool
  | [], _ => true
  | pattern :: rest, p =>
    match firstWord? pattern p.before p.after with
    | some next => occurInOrder rest next
    | none => false

/-! ## Quantifiers -/

/-- Pairs of quantifiers and what they say, in the order in which they are tried. -/
def quantifierPairs : List (String × String × RelationshipKind) := [
  ("one", "many", .oneToMany),
  ("many", "one", .manyToOne),
  ("many", "many", .manyToMany),
  ("each", "multiple", .oneToMany),
  ("single", "multiple", .oneToMany)]

/-- The multiplicity that a sentence states for a relationship between two names. -/
def multiplicity? (sentence source target : List Char) : Option RelationshipKind :=
  quantifierPairs.findSome? fun (first, second, kind) =>
    if occurInOrder [first.toList, source, second.toList, target] ⟨none, sentence⟩ then some kind
    else none

end Draftsman.Extraction
