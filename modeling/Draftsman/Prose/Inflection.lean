/-
Base forms of verbs, and number of nouns.

The functions here take words in small letters, as lists of characters. Irregular forms
come from the lexicon; regular endings are stripped by rules tried in order, and the
first rule that applies decides. Lengths are counted in bytes of the encoded word, so a
stem of one accented letter already counts as longer than one.
-/
import Draftsman.Prose.Lexicon

set_option autoImplicit false

namespace Draftsman.Prose

/-! ## Endings -/

/-- The length of a word in bytes. -/
def byteLength (word : List Char) : Nat := (word.map Char.utf8Size).foldl Nat.add 0

/-- Whether a word has the given ending. -/
def hasEnding (word : List Char) (ending : String) : Bool := ending.toList.isSuffixOf word

/-- The word without the given ending, if it has it. -/
def stem? (word : List Char) (ending : String) : Option (List Char) :=
  if hasEnding word ending then some (word.take (word.length - ending.toList.length)) else none

/-- Whether the lexicon lists the word as a base form. -/
def isBaseVerb (word : List Char) : Bool := Lexicon.verbs.contains (String.ofList word)

/-- The base form of an irregular verb form. -/
def irregularBase? (word : List Char) : Option (List Char) :=
  (Lexicon.irregularVerbs.lookup (String.ofList word)).map String.toList

/-! ## Rules for regular endings -/

/-- Undoes the changes that an ending leaves on the stem: `placed` comes from a verb that
ends in `e`, `stopped` doubles the last letter. A stem that the lexicon does not know in
either form is kept. -/
def restoreStem (stem : List Char) : List Char :=
  if isBaseVerb stem then stem
  else if isBaseVerb (stem ++ ['e']) then stem ++ ['e']
  else match stem.reverse with
    | last :: before :: _ =>
      if last == before && last.isAlpha && 2 < byteLength stem && isBaseVerb stem.dropLast then
        stem.dropLast
      else stem
    | _ => stem

/-- `carries` comes from `carry`. -/
def baseOfIes? (word : List Char) : Option (List Char) :=
  (stem? word "ies").bind fun s => if 1 < byteLength s then some (s ++ ['y']) else none

/-- After a hissing sound the whole `es` is the ending: `passes`, `searches`. -/
def baseOfHissing? (word : List Char) : Option (List Char) :=
  (stem? word "es").bind fun s =>
    if ["ss", "sh", "ch", "x", "z"].any (hasEnding s) then some s else none

/-- A single final `s` is an ending unless hardly anything precedes it. -/
def baseOfS? (word : List Char) : Option (List Char) :=
  (stem? word "s").bind fun s =>
    if !hasEnding s "s" && 1 < byteLength s then some s else none

/-- `carried` comes from `carry`. -/
def baseOfIed? (word : List Char) : Option (List Char) :=
  (stem? word "ied").map (· ++ ['y'])

/-- A past form or a gerund. -/
def baseOfEnding? (ending : String) (word : List Char) : Option (List Char) :=
  (stem? word ending).bind fun s => if 1 < byteLength s then some (restoreStem s) else none

/-- The base form that the first applicable rule gives; a word to which none applies is
its own base form. -/
def lemmatizeVerb (word : List Char) : List Char :=
  (irregularBase? word <|> baseOfIes? word <|> baseOfHissing? word <|> baseOfS? word
    <|> baseOfIed? word <|> baseOfEnding? "ed" word <|> baseOfEnding? "ing" word).getD word

/-! ## Known verbs and plural nouns -/

/-- The base form of a word if it is a known verb or an inflected form of one. -/
def verbBase? (word : List Char) : Option (List Char) :=
  if isBaseVerb word then some word
  else irregularBase? word <|>
    (let base := lemmatizeVerb word
     if base ≠ word && isBaseVerb base then some base else none)

/-- Whether a noun is plural: listed as such, or longer than three bytes with a final `s`
that does not belong to one of the singular endings. -/
def isPlural (word : List Char) : Bool :=
  Lexicon.irregularPlurals.contains (String.ofList word)
    || (3 < byteLength word && hasEnding word "s" && !(["ss", "us", "is"].any (hasEnding word)))

end Draftsman.Prose
