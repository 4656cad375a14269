/-
Lines that list the attributes of a class: `Name: a, b` or `- The Name - a; b and c.`

A line of that form is either a list of short items or a label before prose. Reading it
needs no search: each part of the form begins with a character that no other reading of
the part before it can leave over.
-/
import Draftsman.Text.Blank
import Draftsman.Text.Letters
import Draftsman.Text.Case

set_option autoImplicit false

namespace Draftsman.Extraction

open Draftsman.Text

/-! ## The parts of the form -/

/-- Begins with one of the 26 capitals. -/
def startsCapital (cs : List Char) : Bool := cs.head?.any Char.isUpper

/-- Begins with a blank. -/
def startsBlank (cs : List Char) : Bool := cs.head?.any isBlank

/-- The text after a bullet and the blanks that must follow it. -/
def dropBullet (cs : List Char) : List Char :=
  match cs with
  | c :: rest =>
    if (c == '-' || c == '*' || c == '•') && startsBlank rest then trimStart rest else cs
  | [] => []

/-- The text after the given article, if it begins with the article in letters of either
case, blanks, and a capital. -/
def afterArticle? (article : String) (cs : List Char) : Option (List Char) :=
  let word := cs.take article.length
  let rest := cs.drop article.length
  if word.map lowerPlain == article.toList && startsBlank rest && startsCapital (trimStart rest)
  then some (trimStart rest)
  else none

/-- The text after its article. A word that only looks like an article, because no
capital follows, stays: it is then the name itself. -/
def dropArticle (cs : List Char) : List Char :=
  (["the", "an", "a"].findSome? (afterArticle? · cs)).getD cs

/-- The words at the start of the text that begin with a capital, and the rest after the
last of them. -/
def capitalWords (cs : List Char) : List (List Char) × List Char :=
  match cs with
  | [] => ([], [])
  | c :: tail =>
    if c.isUpper then
      let word := c :: tail.takeWhile isWordMember
      let rest := tail.dropWhile isWordMember
      if startsBlank rest && startsCapital (trimStart rest) then
        let more := capitalWords (trimStart rest)
        (word :: more.1, more.2)
      else ([word], rest)
    else ([], cs)
termination_by cs.length
decreasing_by
  have h₁ := (List.dropWhile_suffix isBlank (l := tail.dropWhile isWordMember)).length_le
  have h₂ := (List.dropWhile_suffix isWordMember (l := tail)).length_le
  simp only [trimStart, List.length_cons]
  omega

/-- What follows a colon, or a dash with a blank on both sides. -/
def afterSeparator? (cs : List Char) : Option (List Char) :=
  match trimStart cs with
  | ':' :: rest => some (trimStart rest)
  | c :: rest =>
    if (c == '-' || c == '–') && startsBlank cs && startsBlank rest then some (trimStart rest)
    else none
  | [] => none

/-! ## The form -/

/-- The words of the name and the text after the separator, for a line that begins with a
name and a separator and goes on after them. -/
def labelled? (line : List Char) : Option (List (List Char) × List Char) :=
  match capitalWords (dropArticle (dropBullet (trimStart line))) with
  | ([], _) => none
  | (name, rest) =>
    match afterSeparator? rest with
    | some (c :: body) => some (name, c :: body)
    | _ => none

/-- The text without the given word and its blank at the start, if they are there. -/
def afterLead? (lead : String) (cs : List Char) : Option (List Char) :=
  if lead.toList.isPrefixOf cs then some (cs.drop lead.length) else none

/-- One item of a list: trimmed, without final stops and without the conjunction that may
introduce the last item. -/
def cleanItem (item : List Char) : List Char :=
  let body := trimChars (dropEndWhile (· == '.') (trimChars item))
  trimChars ((afterLead? "and " body <|> afterLead? "or " body).getD body)

/-- The items of a list separated by commas or semicolons, without the empty ones. -/
def listItems (list : List Char) : List (List Char) :=
  ((list.splitOnP (fun c => c == ',' || c == ';')).map cleanItem).filter (fun i => !i.isEmpty)

/-- The longest item, in words, that still reads as an attribute. -/
def maxAttributeWords : Nat := 3

/-- A line of text: a list of attributes, or prose. -/
inductive Line where
  | attributes (name : List Char) (items : List (List Char))
  | prose (text : List Char)
deriving DecidableEq, Repr

/-- A labelled line with short items only is a list of attributes. Any other labelled
line is prose, and its label is dropped when a sentence seems to follow, that is, when a
capital does (`Note: The Library has Books.`). -/
def classify (line : List Char) : Line :=
  match labelled? line with
  | none => .prose line
  | some (name, body) =>
    let items := listItems body
    if items.all (fun item => (words item).length ≤ maxAttributeWords) then
      .attributes ([' '].intercalate name) items
    else if body.head?.any isUppercase then .prose body
    else .prose line

end Draftsman.Extraction
