/-
Words of the closed classes, wherever they stand and however they are written.

The lexicons list small forms in plain letters, so a word whose small form they list begins with a
letter, and is neither a mark nor a number. What its class is then depends on its first letter and
on its place. The first word of a sentence, and a word that begins with a small letter, has the
class of the lexicon; any other has a capital, and counts as a proper noun unless it is the pronoun
"I". The second pass changes neither: it moves words between the open classes, and moves a proper
noun at the very beginning only (`exists_getElem?_correctFrom`).
-/
import Draftsman.Proofs.Prose.Marks
import Draftsman.Proofs.Text.Plain

set_option autoImplicit false

namespace Draftsman.Prose

open Draftsman.Text

/-! ## Small forms in plain letters -/

/-- A letter, and no digit. -/
def IsLetterLike (c : Char) : Prop := isAlphanumeric c = true ∧ isPlainDigit c = false

theorem isLetterLike_of_toLower {c : Char} (hplain : isPlain c = true)
    (h : c.toLower.isLower = true) : IsLetterLike c := by
  have hletter := forall_isPlain
    (P := fun c => !c.toLower.isLower || (c.isAlphanum && !isPlainDigit c)) (by decide) hplain
  rw [h, Bool.not_true, Bool.false_or, Bool.and_eq_true] at hletter
  exact ⟨isAlphanumeric_of_isAlphanum hletter.1, by simpa using hletter.2⟩

theorem le_of_isLower_ofNat {code : Nat} (h : (Char.ofNat code).isLower = true) : code ≤ 122 := by
  by_cases hvalid : code.isValidChar
  · rw [Char.ofNat, dif_pos hvalid] at h
    exact of_decide_eq_true (Bool.and_eq_true_iff.mp h).2
  · rw [Char.ofNat, dif_neg hvalid] at h
    exact absurd h (by decide)

/-- The Kelvin sign is the only character beyond the first 128 whose small form is a plain
letter. -/
theorem eq_kelvin_sign {run : CaseRun} (hrun : run ∈ lowercaseRuns) {c : Char} {image : Nat}
    (h : run.apply? c.toNat = some image) (hsmall : (Char.ofNat image).isLower = true) :
    c = '\u212A' := by
  have hruns : ∀ run ∈ lowercaseRuns, run.image ≤ 122 → run.first = 0x212A ∧ run.last = 0x212A := by
    decide +kernel
  have hle : run.image ≤ 122 := (CaseRun.image_bounds h).1.trans (le_of_isLower_ofNat hsmall)
  obtain ⟨hfirst, hlast⟩ := hruns run hrun hle
  unfold CaseRun.apply? at h
  split_ifs at h with hcode
  simp only [hfirst, hlast, Bool.and_eq_true, decide_eq_true_eq] at hcode
  have hc : c.toNat = 0x212A := Nat.le_antisymm hcode.1.2 hcode.1.1
  rw [← Char.ofNat_toNat c, hc]

/-- **Only a letter has a small form of plain letters.** The dotted I is none of them: it brings its
dot along. -/
theorem isLetterLike_of_lowerChar {c : Char} (h : ∀ d ∈ lowerChar c, d.isLower = true) :
    IsLetterLike c := by
  unfold lowerChar at h
  split_ifs at h with hplain hdotted
  · exact isLetterLike_of_toLower hplain (h c.toLower (List.mem_singleton_self _))
  · exact absurd (h '\u0307' (List.mem_cons_of_mem _ (List.mem_singleton_self _))) (by decide)
  · replace h := h _ (List.mem_singleton_self _)
    unfold applyRuns at h
    split at h
    · rename_i image himage
      obtain ⟨run, hrun, happly⟩ := List.exists_of_findSome?_eq_some himage
      rw [eq_kelvin_sign hrun happly h]
      exact ⟨by decide +kernel, by decide⟩
    · exact absurd (isPlain_of_isLower h) hplain

/-- A word with a small form of plain letters begins with a letter. -/
theorem exists_cons_of_lowerChars {word : List Char} (hne : lowerChars word ≠ [])
    (h : ∀ c ∈ lowerChars word, c.isLower = true) : ∃ c cs, word = c :: cs ∧ IsLetterLike c := by
  cases word with
  | nil => exact absurd rfl hne
  | cons c cs =>
    refine ⟨c, cs, rfl, isLetterLike_of_lowerChar fun d hd => ?_⟩
    rw [lowerChars, lowerAfter] at h
    by_cases hsigma : c = 'Σ'
    · -- neither form of the small sigma is plain
      rw [hsigma] at h
      have hfalse := h _ (List.mem_append_left _ (List.mem_singleton_self _))
      split_ifs at hfalse
      · exact absurd hfalse (by decide)
      · exact absurd hfalse (by decide)
    · rw [if_neg (by simpa using hsigma)] at h
      exact h d (List.mem_append_left _ hd)

/-! ## The closed classes -/

/-- The lexicons of the closed classes. -/
def closedClasses : List (List String × Tag) := [
  (Lexicon.determiners, .determiner), (Lexicon.conjunctions, .conjunction),
  (Lexicon.prepositions, .preposition), (Lexicon.pronouns, .pronoun), (Lexicon.modals, .modal),
  (Lexicon.adverbs, .adverb)]

/-- What the lexicons say about a word that one of them lists: it consists of plain small letters,
unless it is the sign "&", and no lexicon before that one lists it too. -/
theorem forall_mem_closedClasses :
    ∀ entry ∈ closedClasses, ∀ listed ∈ entry.1, listed.toList ≠ ['&'] →
      listed.toList ≠ [] ∧ listed.toList.all Char.isLower = true ∧
        closedClass? listed.toList = some entry.2 ∧
        (listed.toList = ['i'] → entry.2 = .pronoun) := by
  decide +kernel

theorem closedClasses_tags :
    ∀ entry ∈ closedClasses, entry.2 ≠ .noun ∧ entry.2 ≠ .verb ∧ entry.2 ≠ .properNoun := by
  decide

/-- The class of a word that the lexicon of a class lists. A capital makes a proper noun of it where
it does not open the sentence, except for the pronoun "I". -/
def placedClass (cls : Tag) (word : List Char) (opening : Bool) : Tag :=
  if opening = false ∧ word.head?.any isUppercase = true ∧ lowerChars word ≠ ['i'] then .properNoun
  else cls

theorem lexicalTag_of_closed {word : List Char} {entry : List String × Tag}
    (hentry : entry ∈ closedClasses) (hlisted : String.ofList (lowerChars word) ∈ entry.1)
    (hsign : lowerChars word ≠ ['&']) (opening : Bool) :
    lexicalTag word (lowerChars word) opening = placedClass entry.2 word opening := by
  have hspec := forall_mem_closedClasses entry hentry _ hlisted
  rw [String.toList_ofList] at hspec
  obtain ⟨hne, hsmall, hclass, hpronoun⟩ := hspec hsign
  -- the first letter rules out a mark and a number
  obtain ⟨c, cs, hword, halphanumeric, hdigit⟩ := exists_cons_of_lowerChars hne (List.all_eq_true.mp hsmall)
  have hmark : word.any isAlphanumeric = true := by
    rw [hword, List.any_cons, halphanumeric, Bool.true_or]
  have hnumber : word.all isPlainDigit = false := by
    rw [hword, List.all_cons, hdigit, Bool.false_and]
  rw [lexicalTag, hmark, hnumber, hclass, placedClass]
  simp only [Bool.not_true, Bool.false_eq_true, if_false, Bool.and_eq_true, Bool.not_eq_true',
    beq_iff_eq]
  by_cases hplace : word.head?.any isUppercase = true ∧ opening = false
  · rw [if_pos hplace]
    by_cases hi : lowerChars word = ['i']
    · rw [if_pos hi, if_neg fun h => h.2.2 hi, hpronoun hi]
    · rw [if_neg hi, if_pos ⟨hplace.2, hplace.1, hi⟩]
  · rw [if_neg hplace, if_neg fun h => hplace ⟨h.2.1, h.1⟩]

/-! ## Both passes -/

theorem getElem?_lexicalTokens (words : List (List Char)) (i : Nat) :
    (lexicalTokens words)[i]? = words[i]?.map (lexicalToken · (i == 0)) := by
  cases words with
  | nil => rfl
  | cons word rest =>
    cases i with
    | zero => rfl
    | succ i => rw [lexicalTokens, List.getElem?_cons_succ, List.getElem?_map,
        List.getElem?_cons_succ]; rfl

/-- The second pass corrects a token where it stands; only the first one opens the sentence. -/
theorem exists_getElem?_correctFrom (ctx : LeftContext) {tokens : List Token} {i : Nat} {t : Token}
    (h : tokens[i]? = some t) :
    ∃ left next, (correctFrom ctx tokens)[i]? = some (correct left next t) ∧
      (left.opening = true → i = 0 ∧ ctx.opening = true) := by
  induction tokens generalizing ctx i with
  | nil => exact absurd h (by simp)
  | cons first rest ih =>
    cases i with
    | zero =>
      obtain rfl : first = t := Option.some.inj h
      exact ⟨ctx, rest.head?, rfl, fun hopening => ⟨rfl, hopening⟩⟩
    | succ i =>
      obtain ⟨left, next, hfixed, hopening⟩ := ih (ctx.advance (correct ctx rest.head? first)) h
      -- no word opens the sentence behind another one
      exact ⟨left, next, hfixed, fun hleft => absurd (hopening hleft).2 Bool.false_ne_true⟩

theorem map_text_correctFrom (ctx : LeftContext) (tokens : List Token) :
    (correctFrom ctx tokens).map Token.text = tokens.map Token.text := by
  induction tokens generalizing ctx with
  | nil => rfl
  | cons t rest ih => rw [correctFrom, List.map_cons, List.map_cons, ih, text_correct]

/-- The tokens of a sentence are its words, one by one. -/
theorem map_text_tag (words : List (List Char)) : (tag words).map Token.text = words := by
  rw [tag, map_text_correctFrom, map_text_lexicalTokens]

/-- **A word that the lexicon of a closed class lists has that class**, in either pass and wherever
it stands, unless it has a capital that makes a proper noun of it. -/
theorem exists_getElem?_tag_of_closed {words : List (List Char)} {i : Nat} {word : List Char}
    (hword : words[i]? = some word) {entry : List String × Tag} (hentry : entry ∈ closedClasses)
    (hlisted : String.ofList (lowerChars word) ∈ entry.1) (hsign : lowerChars word ≠ ['&']) :
    ∃ t, (tag words)[i]? = some t ∧ t.text = word ∧
      t.tag = placedClass entry.2 word (i == 0) := by
  have htag := lexicalTag_of_closed hentry hlisted hsign (i == 0)
  have hlexical : (lexicalTokens words)[i]? = some (lexicalToken word (i == 0)) := by
    rw [getElem?_lexicalTokens, hword, Option.map_some]
  obtain ⟨left, next, hfixed, hopening⟩ := exists_getElem?_correctFrom .start hlexical
  obtain ⟨hnoun, hverb, hproper⟩ := closedClasses_tags entry hentry
  have hself : correct left next (lexicalToken word (i == 0)) = lexicalToken word (i == 0) := by
    have hopen : lexicalTag word (lowerChars word) (i == 0) ≠ .verb ∧
        lexicalTag word (lowerChars word) (i == 0) ≠ .noun := by
      rw [htag, placedClass]
      split_ifs
      · exact ⟨by decide, by decide⟩
      · exact ⟨hverb, hnoun⟩
    refine correct_eq_self hopen.1 hopen.2 fun hproperNoun => Bool.eq_false_iff.mpr fun hleft => ?_
    obtain rfl := (hopening hleft).1
    exact hproper (htag.symm.trans hproperNoun)
  exact ⟨lexicalToken word (i == 0), hself ▸ hfixed, rfl, htag⟩

/-- A proper noun that the lexicon of a closed class lists has a capital, and neither opens the
sentence nor is the pronoun. -/
theorem capitalized_of_closed {words : List (List Char)} {t : Token} (ht : t ∈ tag words)
    (hproper : t.isProperNoun = true) {entry : List String × Tag} (hentry : entry ∈ closedClasses)
    (hlisted : String.ofList (lowerChars t.text) ∈ entry.1) (hsign : lowerChars t.text ≠ ['&']) :
    t.isCapitalized = true ∧ lowerChars t.text ≠ ['i'] ∧ (tag words).head? ≠ some t := by
  have htag : t.tag = .properNoun := eq_of_beq hproper
  -- in whatever place the token stands, that place does not open the sentence
  have hplace {i : Nat} (hi : (tag words)[i]? = some t) :
      (i == 0) = false ∧ t.text.head?.any isUppercase = true ∧ lowerChars t.text ≠ ['i'] := by
    have hword : words[i]? = some t.text := by
      rw [← map_text_tag words, List.getElem?_map, hi, Option.map_some]
    obtain ⟨u, hu, -, hclass⟩ := exists_getElem?_tag_of_closed hword hentry hlisted hsign
    obtain rfl : t = u := Option.some.inj (hi.symm.trans hu)
    rw [htag, placedClass] at hclass
    split_ifs at hclass with h
    · exact h
    · exact absurd hclass.symm (closedClasses_tags entry hentry).2.2
  obtain ⟨i, hi⟩ := List.getElem?_of_mem ht
  obtain ⟨-, hcapital, hpronoun⟩ := hplace hi
  refine ⟨hcapital, hpronoun, fun hhead => ?_⟩
  rw [List.head?_eq_getElem?] at hhead
  exact Bool.false_ne_true (hplace hhead).1.symm

end Draftsman.Prose
