/-
What a text says about classes, sentence by sentence, and the class diagram drafted from it.

A sentence is read word by word, each with the words before and after it in view. Three
kinds of word carry information besides the names themselves: a verb of having lists
attributes, a modal grants methods, and any verb between two names relates them. What is
found is a list of findings, in the order in which they enter a diagram.
-/
import Draftsman.Diagram.Model
import Draftsman.Extraction.AttributeLine
import Draftsman.Extraction.Multiplicity
import Draftsman.Prose.Tagging

set_option autoImplicit false

namespace Draftsman.Extraction

open Draftsman.Prose Draftsman.Text

/-! ## Vocabularies -/

/-- Verbs whose objects may be attributes. -/
def attributeVerbs : List String := ["have", "contain", "include"]

/-- Verbs that make the subject a special case of the object. -/
def inheritanceVerbs : List String :=
  ["be", "inherit", "extend", "derive", "specialize", "subclass", "implement"]

/-- Verbs that make the object a part of the subject. -/
def compositionVerbs : List String :=
  ["contain", "include", "have", "comprise", "consist", "compose", "hold"]

/-- Whether the base form of a token is in a vocabulary. -/
def inVocabulary (vocabulary : List String) (t : Token) : Bool :=
  vocabulary.contains (String.ofList t.base)

/-! ## Names, subjects and objects -/

/-- The maximal runs of proper nouns: the names in a sentence. -/
def nameRuns (tokens : List Token) : List (List Token) :=
  (tokens.splitOnP (fun t => !t.isProperNoun)).filter (fun run => !run.isEmpty)

/-- The text of a name. -/
def nameText (run : List Token) : String := String.ofList (joinWords run)

/-- Words that may stand between a subject and its verb. -/
def isTransparent (t : Token) : Bool :=
  t.tag == .adverb || t.tag == .modal || t.isAuxiliary

/-- The name that governs a verb or modal, with the words before it given from the
nearest: the run of proper nouns that ends where only transparent words follow. -/
def subject? (before : List Token) : Option (List Token) :=
  match (before.dropWhile isTransparent).takeWhile Token.isProperNoun with
  | [] => none
  | run => some run.reverse

/-- Words that may stand in front of the noun in an item of a list. -/
def isModifier (t : Token) : Bool :=
  t.tag == .determiner || t.tag == .adjective || t.tag == .number || t.tag == .adverb

/-- The words without a conjunction at the start. -/
def dropConjunction : List Token → List Token
  | t :: rest => if t.tag = .conjunction then rest else t :: rest
  | [] => []

theorem length_dropConjunction_le (tokens : List Token) :
    (dropConjunction tokens).length ≤ tokens.length := by
  unfold dropConjunction
  split
  · split
    · simp
    · exact Nat.le_refl _
  · exact Nat.le_refl _

/-- The coordinated items at the start of the words: runs of nouns, each after its
modifiers, separated by a comma or a conjunction, or a comma and a conjunction. The list
ends with the first item that is empty or is not followed by a separator. -/
def objectItems (tokens : List Token) : List (List Token) :=
  let body := tokens.dropWhile isModifier
  let item := body.takeWhile Token.isNoun
  if item.isEmpty then []
  else
    match _h : body.dropWhile Token.isNoun with
    | [] => [item]
    | separator :: rest =>
      if separator.isSeparator then item :: objectItems (dropConjunction rest) else [item]
termination_by tokens.length
decreasing_by
  have h₁ := length_dropConjunction_le rest
  have h₂ := (List.dropWhile_suffix Token.isNoun (l := body)).length_le
  have h₃ := (List.dropWhile_suffix isModifier (l := tokens)).length_le
  have h₄ : (separator :: rest).length ≤ body.length := _h ▸ h₂
  simp only [List.length_cons] at h₄
  have h₅ : body.length ≤ tokens.length := h₃
  omega

/-- An item that is a name: proper nouns only. -/
def isName (item : List Token) : Bool := item.all Token.isProperNoun

/-! ## Verbs that a modal governs -/

/-- The verbs coordinated with the first one, in the words after it. A verb counts when a
separator precedes it with nothing but adverbs between them; `armed` says that this is
the case for the next word. The next modal ends the scan. -/
def coordinatedVerbs (armed : Bool) : List Token → List Token
  | [] => []
  | t :: rest =>
    if t.tag = .modal then []
    else if armed && t.tag = .adverb then coordinatedVerbs true rest
    else if armed && t.tag = .verb then t :: coordinatedVerbs false rest
    else coordinatedVerbs t.isSeparator rest

/-- The verbs that a modal governs, in the words after it: the first word that is not an
adverb, if it is a verb of its own, and the verbs coordinated with it. -/
def governedVerbs (after : List Token) : List Token :=
  match after.dropWhile (fun t => t.tag = .adverb) with
  | first :: rest =>
    if first.tag = .verb && !first.isAuxiliary then first :: coordinatedVerbs false rest else []
  | [] => []

/-! ## Findings -/

/-- One thing that a text says about classes. -/
inductive Finding where
  | named (name : String)
  | attribute (owner item : String)
  | method (owner item : String)
  | related (relationship : Relationship)
deriving DecidableEq, Repr

/-- A word in its sentence, with the words before it given from the nearest. -/
structure View where
  before : List Token
  token : Token
  after : List Token

/-- Every word of a sentence in its place, after the words `before`. -/
def viewsAfter (before : List Token) : List Token → List View
  | [] => []
  | t :: rest => ⟨before, t, rest⟩ :: viewsAfter (t :: before) rest

/-- Every word of a sentence in its place. -/
def views (tokens : List Token) : List View := viewsAfter [] tokens

/-- A verb of having gives its subject the items of its list as attributes, except for
the names among them: those are classes, and left to relationships. -/
def attributeFindings (v : View) : List Finding :=
  if v.token.tag = .verb && inVocabulary attributeVerbs v.token then
    match subject? v.before with
    | none => []
    | some subject =>
      ((objectItems v.after).filter (fun item => !isName item)).map fun item =>
        .attribute (nameText subject) (nameText item)
  else []

/-- A modal gives its subject the verbs that it governs as methods. -/
def methodFindings (v : View) : List Finding :=
  if v.token.tag = .modal then
    match subject? v.before with
    | none => []
    | some subject =>
      (governedVerbs v.after).map fun verb =>
        .method (nameText subject) (String.ofList verb.base ++ "()")
  else []

/-- The relationship that a verb states. Its base form decides between inheritance,
composition and association; an association has that form as its label, and is refined by
the quantifiers of the sentence or by a plural object. -/
def relationshipOf (sentence : List Char) (verb : Token) (subject object : List Token) :
    Relationship :=
  let source := nameText subject
  let target := nameText object
  if inVocabulary inheritanceVerbs verb then ⟨source, target, .inheritance, ""⟩
  else if inVocabulary compositionVerbs verb then ⟨source, target, .composition, ""⟩
  else
    let kind := match multiplicity? sentence (joinWords subject) (joinWords object) with
      | some kind => kind
      | none =>
        if object.getLast?.any (fun t => isPlural t.lower) then .oneToMany else .association
    ⟨source, target, kind, String.ofList verb.base⟩

/-- A verb relates its subject to the names in its list of objects. Prepositions between
the verb and the list are skipped (`inherits from`). -/
def relationshipFindings (sentence : List Char) (v : View) : List Finding :=
  if v.token.tag = .verb && v.token.base ≠ "do".toList then
    match subject? v.before with
    | none => []
    | some subject =>
      let objects := objectItems (v.after.dropWhile (fun t => t.tag = .preposition))
      (objects.filter isName).map fun object =>
        .related (relationshipOf sentence v.token subject object)
  else []

/-- What a sentence says: first all its names, then attributes, methods and relationships. -/
def sentenceFindings (sentence : List Char) : List Finding :=
  let tokens := tagSentence sentence
  let places := views tokens
  (nameRuns tokens).map (fun run => .named (nameText run))
    ++ places.flatMap attributeFindings
    ++ places.flatMap methodFindings
    ++ places.flatMap (relationshipFindings sentence)

/-- What a line says. -/
def lineFindings (line : List Char) : List Finding :=
  match classify line with
  | .attributes name items =>
    .named (String.ofList name)
      :: items.map fun item => .attribute (String.ofList name) (String.ofList item)
  | .prose text => (sentences text).flatMap sentenceFindings

/-! ## Drafts

The draft is the best that rules alone can do. It favours precision over completeness: it is
shown to the completion service as context, and it is the answer when the service fails. Only
class diagrams have rules; the draft of any other kind is empty. -/

/-- Enters one finding into a diagram. -/
def record (model : ClassModel) : Finding → ClassModel
  | .named name => model.ensure name
  | .attribute owner item => model.addAttribute owner item
  | .method owner item => model.addMethod owner item
  | .related relationship => model.addRelationship relationship

/-- What a text says, line by line. -/
def findings (text : String) : List Finding := (lines text.toList).flatMap lineFindings

/-- The class diagram that a text describes. -/
def extract (text : String) : ClassModel := (findings text).foldl record .empty

/-- The draft model of any kind. -/
def draft (text : String) : DiagramKind → Model
  | .classes => .classes (extract text)
  | kind => .empty kind

end Draftsman.Extraction
