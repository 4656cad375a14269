/-
Sentences and the words in them.

Cutting text never loses a character that is not blank: a sentence keeps its final mark,
and every mark that is not part of a word becomes a word of its own. What is dropped is
white space only.
-/
import Draftsman.Text.Blank
import Draftsman.Text.Letters

set_option autoImplicit false

namespace Draftsman.Prose

open Draftsman.Text

/-! ## Sentences -/

/-- A full stop, exclamation mark or question mark ends a sentence when a blank or the
end of the text follows. The point in `3.14` or in a dotted identifier does not. -/
def endsSentence (c : Char) (next : Option Char) : Bool :=
  (c == '.' || c == '!' || c == '?') && next.all isBlank

/-- The text cut after every sentence end; the pieces make up the text again. -/
def cutSentences : List Char → List (List Char)
  | [] => [[]]
  | c :: rest =>
    if endsSentence c rest.head? then [c] :: cutSentences rest
    else (cutSentences rest).modifyHead (c :: ·)

/-- The sentences of a text: its pieces, trimmed, without the empty ones. -/
def sentences (text : List Char) : List (List Char) :=
  ((cutSentences text).map trimChars).filter (fun s => !s.isEmpty)

/-! ## Words -/

/-- The marks that may join two parts of one word: `e-mail`, `user_id`, `don't`. -/
def isJoiner (c : Char) : Bool := c == '\'' || c == '-' || c == '_'

/-- The word collected so far, as a list of at most one word. -/
def finishWord (current : List Char) : List (List Char) :=
  if current.isEmpty then [] else [current.reverse]

/-- Reads words with `current`, the word being collected, given from its end. A joiner
continues a word only if one has begun and a letter or number follows; any other
character that is neither part of a word nor blank stands alone. -/
def scanWords (current : List Char) : List Char → List (List Char)
  | [] => finishWord current
  | c :: rest =>
    if isAlphanumeric c || (isJoiner c && !current.isEmpty && rest.head?.any isAlphanumeric) then
      scanWords (c :: current) rest
    else
      finishWord current ++ (if isBlank c then [] else [[c]]) ++ scanWords [] rest

/-- The words and marks of a sentence in order. -/
def tokenize (sentence : List Char) : List (List Char) := scanWords [] sentence

end Draftsman.Prose
