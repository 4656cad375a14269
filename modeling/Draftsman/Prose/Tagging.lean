/-
Word classes.

Tagging runs in two passes. The first looks at each word alone, and only asks besides
whether it opens the sentence. The second goes from left to right and corrects three
kinds of word by what stands around them: a verb after a determiner is a noun ("a
deposit"), an unknown small word after a modal or between a noun and a noun phrase is a
verb ("customer orders products"), and a capital verb before a determiner at the very
beginning is an imperative ("Register a Customer"). It sees the corrected tags to its
left and the first pass to its right, and never more than one word ahead.
-/
import Draftsman.Prose.Inflection
import Draftsman.Prose.Sentence
import Draftsman.Text.Case

set_option autoImplicit false

namespace Draftsman.Prose

open Draftsman.Text

/-! ## Tokens -/

/-- Word classes. -/
inductive Tag where
  | noun
  | properNoun
  | verb
  | modal
  | determiner
  | conjunction
  | preposition
  | pronoun
  | adjective
  | adverb
  | number
  | punctuation
deriving DecidableEq, Repr

/-- A word with its small form, its base (for verbs the base form, for all other words
the small form again) and its class. -/
structure Token where
  text : List Char
  lower : List Char
  base : List Char
  tag : Tag
deriving DecidableEq, Repr

namespace Token

/-- A noun, proper or not. -/
def isNoun (t : Token) : Bool := t.tag == .noun || t.tag == .properNoun

/-- A proper noun: the kind of word that names a class. -/
def isProperNoun (t : Token) : Bool := t.tag == .properNoun

/-- Begins with a capital letter. -/
def isCapitalized (t : Token) : Bool := t.text.head?.any isUppercase

/-- The given mark, standing alone. -/
def isMark (t : Token) (mark : Char) : Bool := t.tag == .punctuation && t.text == [mark]

/-- A comma or a conjunction: what separates the items of a list. -/
def isSeparator (t : Token) : Bool := t.tag == .conjunction || t.isMark ','

/-- A verb that helps another one and names no action of its own. -/
def isAuxiliary (t : Token) : Bool :=
  t.tag == .verb && Lexicon.auxiliaries.contains (String.ofList t.base)

end Token

/-- The words of some tokens with single spaces between them. -/
def joinWords (tokens : List Token) : List Char :=
  [' '].intercalate (tokens.map Token.text)

/-! ## The first pass: words alone -/

/-- The class of a word that belongs to a closed class, or is an irregular verb form. -/
def closedClass? (lower : List Char) : Option Tag :=
  let word := String.ofList lower
  if Lexicon.determiners.contains word then some .determiner
  else if Lexicon.conjunctions.contains word then some .conjunction
  else if Lexicon.prepositions.contains word then some .preposition
  else if Lexicon.pronouns.contains word then some .pronoun
  else if Lexicon.modals.contains word then some .modal
  else if Lexicon.adverbs.contains word then some .adverb
  else if (irregularBase? lower).isSome then some .verb
  else none

/-- Whether a word is an adjective, by the lexicon or by its ending. -/
def isAdjective (lower : List Char) : Bool :=
  Lexicon.adjectives.contains (String.ofList lower)
    || (5 < byteLength lower && Lexicon.adjectiveEndings.any (hasEnding lower))

/-- The class of a word alone. A capital letter makes a proper noun of any word that does
not open the sentence, except for the pronoun `I`. -/
def lexicalTag (word lower : List Char) (opening : Bool) : Tag :=
  let capitalized := word.head?.any isUppercase
  if !word.any isAlphanumeric then .punctuation
  else if word.all isPlainDigit then .number
  else if capitalized && !opening then
    if lower == ['i'] then .pronoun else .properNoun
  else match closedClass? lower with
    | some tag => tag
    | none =>
      if (verbBase? lower).isSome && !capitalized then .verb
      else if capitalized then .properNoun
      else if isAdjective lower then .adjective
      else .noun

/-- The token of a word alone. -/
def lexicalToken (word : List Char) (opening : Bool) : Token :=
  let lower := lowerChars word
  let tag := lexicalTag word lower opening
  { text := word
    lower := lower
    base := if tag = .verb then (verbBase? lower).getD lower else lower
    tag := tag }

/-- The first pass: only the first word opens the sentence. -/
def lexicalTokens : List (List Char) → List Token
  | [] => []
  | word :: rest => lexicalToken word true :: rest.map (lexicalToken · false)

/-! ## The second pass: words in context -/

/-- What the second pass knows of the words to the left: the class of the nearest one
that is not an adverb, whether the very last one is a noun, and whether there is any. -/
structure LeftContext where
  content : Option Tag
  afterNoun : Bool
  opening : Bool

/-- Nothing to the left. -/
def LeftContext.start : LeftContext := ⟨none, false, true⟩

/-- One more word to the left. -/
def LeftContext.advance (ctx : LeftContext) (t : Token) : LeftContext :=
  { content := if t.tag = .adverb then ctx.content else some t.tag
    afterNoun := t.isNoun
    opening := false }

/-- A known verb that is not an irregular form. -/
def isRegularVerb (lower : List Char) : Bool :=
  (irregularBase? lower).isNone && (verbBase? lower).isSome

/-- Ends like a verb form: in `ed`, or in a single `s`. -/
def looksInflected (lower : List Char) : Bool :=
  (hasEnding lower "s" && !hasEnding lower "ss") || hasEnding lower "ed"

/-- The word after it can open a noun phrase. -/
def opensPhrase (t : Token) : Bool :=
  t.tag == .determiner || t.tag == .properNoun || t.tag == .noun || t.tag == .number

/-- Corrects one token by its neighbours. -/
def correct (ctx : LeftContext) (next : Option Token) (t : Token) : Token :=
  match t.tag with
  | .verb =>
    if isRegularVerb t.lower && (ctx.content == some .determiner || ctx.content == some .adjective)
    then { t with tag := .noun, base := t.lower }
    else t
  | .noun =>
    let contextual := looksInflected t.lower && ctx.afterNoun && next.any opensPhrase
    if !t.isCapitalized && (ctx.content == some .modal || contextual) then
      { t with tag := .verb, base := lemmatizeVerb t.lower }
    else t
  | .properNoun =>
    if ctx.opening && next.any (fun n => n.tag == .determiner) then
      match verbBase? t.lower with
      | some b => { t with tag := .verb, base := b }
      | none => t
    else t
  | _ => t

/-- The second pass over the words to the right of `ctx`. -/
def correctFrom (ctx : LeftContext) : List Token → List Token
  | [] => []
  | t :: rest =>
    let fixed := correct ctx rest.head? t
    fixed :: correctFrom (ctx.advance fixed) rest

/-- The tagged tokens of the words of a sentence. -/
def tag (words : List (List Char)) : List Token :=
  correctFrom LeftContext.start (lexicalTokens words)

/-- The tagged tokens of a sentence. -/
def tagSentence (sentence : List Char) : List Token := tag (tokenize sentence)

end Draftsman.Prose
