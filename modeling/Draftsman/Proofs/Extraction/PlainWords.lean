/-
Sentences of plain words.

A sentence of plain letters, with blanks and stops between its words, is cut where one would cut
it (`tokenize_phrase`). The class of most of its words is settled in the first pass of tagging: a
capital makes a proper noun of a word that does not open the sentence, whatever the lexicon says
of it, and the second pass changes only verbs, nouns and the first word (`correctFrom_append`). Of
the verbs those behind a name stay what they are. So the tokens of a plain statement can be read off
its words (`tag_statement`). A form of a verb of the vocabularies is plain of itself, since a rule
for endings keeps the letters of the stem (`keepsStem_of_regularBase?`).
-/
import Draftsman.Proofs.Extraction.ClassNames
import Draftsman.Proofs.Prose.BaseForms
import Draftsman.Proofs.Prose.Splitting

set_option autoImplicit false

namespace Draftsman.Prose

open Draftsman.Text Draftsman.Extraction

/-! ## Words and breaks -/

section Breaks

variable {c : Char} (hc : isBreak c = true)
include hc

/-- **A word ends at a break**, and what follows is read as if nothing came before. -/
theorem tokenize_word {w : List Char} (hne : w ≠ [])
    (hw : ∀ d ∈ w, isAlphanumeric d = true) (rest : List Char) :
    tokenize (w ++ c :: rest) = w :: (marksOf c ++ tokenize rest) := by
  have hscan (current w : List Char) (hw : ∀ d ∈ w, isAlphanumeric d = true) :
      scanWords current (w ++ c :: rest) = scanWords (w.reverse ++ current) (c :: rest) := by
    induction w generalizing current with
    | nil => rfl
    | cons d w ih =>
      rw [List.cons_append, scanWords, hw d List.mem_cons_self, Bool.true_or, if_pos rfl,
        ih _ fun e he => hw e (List.mem_cons_of_mem d he), List.reverse_cons, List.append_assoc]
      rfl
  have hnonempty : w.reverse.isEmpty = false := by simpa using hne
  rw [tokenize, hscan [] w hw, List.append_nil, scanWords_break hc, finishWord, hnonempty,
    if_neg Bool.false_ne_true, List.reverse_reverse, List.singleton_append]

/-- **Words with blanks between them, and a break behind the last.** -/
theorem tokenize_phrase {ws : List (List Char)} (hws : ws ≠ [])
    (hwords : ∀ w ∈ ws, w ≠ [] ∧ ∀ d ∈ w, isAlphanumeric d = true) (rest : List Char) :
    tokenize ([' '].intercalate ws ++ c :: rest) = ws ++ (marksOf c ++ tokenize rest) := by
  induction ws with
  | nil => exact absurd rfl hws
  | cons w ws ih =>
    obtain ⟨hne, hw⟩ := hwords w List.mem_cons_self
    cases ws with
    | nil => rw [List.intercalate_singleton, tokenize_word hc hne hw, List.singleton_append]
    | cons v ws =>
      rw [List.intercalate_cons_cons, List.append_assoc, List.append_assoc, List.singleton_append,
        tokenize_word (by decide) hne hw,
        ih (List.cons_ne_nil v ws) fun u hu => hwords u (List.mem_cons_of_mem w hu)]
      rfl

end Breaks

/-! ## Names -/

/-- A word of a plain name: a capital of the 26, then plain letters and digits, and not the
pronoun. -/
structure IsNameWord (w : List Char) : Prop where
  capital : w.head?.any Char.isUpper = true
  alphanumeric : ∀ c ∈ w, c.isAlphanum = true
  ne_pronoun : w ≠ ['I']

instance (w : List Char) : Decidable (IsNameWord w) :=
  decidable_of_iff (w.head?.any Char.isUpper = true ∧ w.all Char.isAlphanum = true ∧ w ≠ ['I'])
    ⟨fun h => ⟨h.1, List.all_eq_true.mp h.2.1, h.2.2⟩,
      fun h => ⟨h.capital, List.all_eq_true.mpr h.alphanumeric, h.ne_pronoun⟩⟩

/-- The token of a word of a name. -/
def nameToken (w : List Char) : Token := ⟨w, lowerChars w, lowerChars w, .properNoun⟩

section NameWords

variable {w : List Char} (h : IsNameWord w)
include h

theorem IsNameWord.exists_cons : ∃ c cs, w = c :: cs ∧ c.isUpper = true := by
  obtain ⟨c, hc, hupper⟩ := (Option.any_eq_true _ _).mp h.capital
  obtain ⟨cs, rfl⟩ := List.head?_eq_some_iff.mp hc
  exact ⟨c, cs, rfl, hupper⟩

theorem IsNameWord.lowerChars_ne : lowerChars w ≠ ['i'] := by
  rw [lowerChars_of_isPlain fun c hc => isPlain_of_isAlphanum (h.alphanumeric c hc)]
  obtain ⟨c, cs, rfl, hupper⟩ := h.exists_cons
  intro hi
  obtain ⟨hc, hcs⟩ := List.cons.inj (hi : c.toLower :: cs.map Char.toLower = ['i'])
  have hcapital := forall_isUpper (P := fun c => !(c.toLower == 'i') || c == 'I') (by decide) hupper
  rw [hc] at hcapital
  refine h.ne_pronoun ?_
  rw [List.map_eq_nil_iff.mp hcs, show c = 'I' by simpa using hcapital]

/-- **A capital makes a proper noun of a word that does not open the sentence.** -/
theorem IsNameWord.lexicalToken_eq : lexicalToken w false = nameToken w := by
  have hpronoun : (lowerChars w == ['i']) = false := beq_eq_false_iff_ne.mpr h.lowerChars_ne
  have htag : lexicalTag w (lowerChars w) false = .properNoun := by
    obtain ⟨c, cs, rfl, hupper⟩ := h.exists_cons
    have halphanumeric := isAlphanumeric_of_isAlphanum (h.alphanumeric c List.mem_cons_self)
    simp [lexicalTag, halphanumeric, not_isPlainDigit_of_isUpper hupper,
      isUppercase_of_isUpper hupper, hpronoun]
  rw [lexicalToken, htag]
  rfl

end NameWords

/-! ## Verbs -/

/-- The words of the closed classes. -/
def closedWords : List String :=
  Lexicon.determiners ++ Lexicon.conjunctions ++ Lexicon.prepositions ++ Lexicon.pronouns
    ++ Lexicon.modals ++ Lexicon.adverbs

/-- The vocabularies that decide the kind of a relationship. -/
def relatingVerbs : List String := inheritanceVerbs ++ compositionVerbs

/-- Where the base form of a verb comes from: it is the word itself, or listed, or a rule gives
it. -/
theorem verbBase?_cases {w base : List Char} (h : verbBase? w = some base) :
    base = w ∨ irregularBase? w = some base ∨ regularBase? w = some base := by
  unfold verbBase? at h
  split_ifs at h
  · exact .inl (Option.some.inj h).symm
  cases hirregular : irregularBase? w with
  | some irregular =>
    rw [hirregular] at h
    exact .inr (.inl h)
  | none =>
    have hlemma : lemmatizeVerb w = (none <|> regularBase? w).getD w := hirregular ▸ rfl
    rw [hirregular] at h
    cases hregular : regularBase? w with
    | none =>
      have hsame : lemmatizeVerb w = w := by rw [hlemma, hregular]; rfl
      rw [hsame] at h
      simp at h
    | some regular =>
      have hrule : lemmatizeVerb w = regular := by rw [hlemma, hregular]; rfl
      rw [hrule] at h
      replace h :
          (if regular ≠ w && isBaseVerb regular then some regular else none) = some base := h
      split_ifs at h
      exact .inr (.inr h)

/-- No word of a closed class is a form of a verb of the vocabularies. -/
theorem verbBase?_not_mem_relatingVerbs {word : String} (hword : word ∈ closedWords)
    {base : List Char} (h : verbBase? word.toList = some base) :
    String.ofList base ∉ relatingVerbs := by
  have hsame : ∀ word ∈ closedWords, word ∉ relatingVerbs := by decide +kernel
  have hirregular : ∀ entry ∈ Lexicon.irregularVerbs, entry.2 ∈ relatingVerbs →
      entry.1 ∉ closedWords := by decide +kernel
  have hregular : ∀ word ∈ closedWords, ∀ base ∈ regularBase? word.toList,
      String.ofList base ∉ relatingVerbs := by decide +kernel
  rcases verbBase?_cases h with rfl | hcase | hcase
  · rw [String.ofList_toList]
    exact hsame word hword
  · obtain ⟨listed, hlookup, rfl⟩ := Option.map_eq_some_iff.mp hcase
    obtain ⟨before, after, hmem, -⟩ := List.lookup_eq_some_iff.mp hlookup
    rw [String.ofList_toList] at hmem ⊢
    exact fun hlisted => hirregular (word, listed) (by simp [hmem]) hlisted hword
  · exact hregular word hword base hcase

/-! ### What a rule leaves -/

/-- The endings that the rules strip. -/
def endings : List String := ["ies", "es", "s", "ied", "ed", "ing"]

/-- The word is an ending behind letters that its base form keeps. -/
def KeepsStem (w base : List Char) : Prop :=
  ∃ stem, ∃ ending ∈ endings, w = stem ++ ending.toList ∧ stem ⊆ base

theorem keepsStem_of_stem? {w base : List Char} {ending : String} (hending : ending ∈ endings)
    {rule : List Char → Option (List Char)} (hrule : ∀ stem b, rule stem = some b → stem ⊆ b)
    (h : (stem? w ending).bind rule = some base) : KeepsStem w base := by
  obtain ⟨stem, hstem, hbase⟩ := Option.bind_eq_some_iff.mp h
  exact ⟨stem, ending, hending, eq_append_of_stem? hstem, hrule stem base hbase⟩

/-- Of a doubled letter one is kept. -/
theorem subset_restoreStem (stem : List Char) : stem ⊆ restoreStem stem := by
  unfold restoreStem
  split_ifs
  · exact List.Subset.refl stem
  · exact List.subset_append_left stem ['e']
  split
  · rename_i last before front hreverse
    split_ifs with hdoubled
    · have hsame : last = before := by
        simp only [Bool.and_eq_true, beq_iff_eq] at hdoubled
        exact hdoubled.1.1.1
      obtain rfl : stem = (last :: before :: front).reverse := by
        rw [← hreverse, List.reverse_reverse]
      subst hsame
      intro c hc
      rw [List.reverse_cons, List.dropLast_concat]
      simpa using hc
    · exact List.Subset.refl stem
  · exact List.Subset.refl stem

theorem keepsStem_of_regularBase? {w base : List Char} (h : regularBase? w = some base) :
    KeepsStem w base := by
  have hor {a b : Option (List Char)} (h : (a <|> b) = some base) :
      a = some base ∨ b = some base := by
    cases a with
    | none => exact .inr h
    | some a => exact .inl h
  have hguarded {p : Prop} [Decidable p] {stem b base : List Char} (hb : stem ⊆ b)
      (h : (if p then some b else none) = some base) : stem ⊆ base := by
    split_ifs at h
    exact Option.some.inj h ▸ hb
  rcases hor h with h | h
  · exact keepsStem_of_stem? (by decide)
      (fun stem b hb => hguarded (List.subset_append_left stem ['y']) hb) h
  rcases hor h with h | h
  · exact keepsStem_of_stem? (by decide) (fun stem b hb => hguarded (List.Subset.refl stem) hb) h
  rcases hor h with h | h
  · exact keepsStem_of_stem? (by decide) (fun stem b hb => hguarded (List.Subset.refl stem) hb) h
  rcases hor h with h | h
  · obtain ⟨stem, hstem, rfl⟩ := Option.map_eq_some_iff.mp h
    exact ⟨stem, "ied", by decide, eq_append_of_stem? hstem, List.subset_append_left stem ['y']⟩
  rcases hor h with h | h
  · exact keepsStem_of_stem? (by decide) (fun stem b hb => hguarded (subset_restoreStem stem) hb) h
  · exact keepsStem_of_stem? (by decide) (fun stem b hb => hguarded (subset_restoreStem stem) hb) h

/-! ### Forms of the verbs of the vocabularies -/

/-- A form of a verb that decides the kind of a relationship. -/
structure IsRelatingVerb (w base : List Char) : Prop where
  verbBase?_eq : verbBase? w = some base
  mem_relatingVerbs : String.ofList base ∈ relatingVerbs

instance (w base : List Char) : Decidable (IsRelatingVerb w base) :=
  decidable_of_iff (verbBase? w = some base ∧ String.ofList base ∈ relatingVerbs)
    ⟨fun h => ⟨h.1, h.2⟩, fun h => ⟨h.verbBase?_eq, h.mem_relatingVerbs⟩⟩

section Verbs

variable {w base : List Char} (h : IsRelatingVerb w base)
include h

/-- Nothing but small letters is a form of a verb of the vocabularies: the letters of a form are
those of the base form and of an ending, or the form is listed. -/
theorem IsRelatingVerb.small : ∀ c ∈ w, c.isLower = true := by
  have hvocabularies : ∀ verb ∈ relatingVerbs, verb.toList.all Char.isLower = true := by
    decide +kernel
  have hbase : ∀ c ∈ base, c.isLower = true := by
    simpa using hvocabularies _ h.mem_relatingVerbs
  rcases verbBase?_cases h.verbBase?_eq with rfl | hirregular | hregular
  · exact hbase
  · have hlisted : ∀ entry ∈ Lexicon.irregularVerbs, entry.1.toList.all Char.isLower = true := by
      decide +kernel
    obtain ⟨listed, hlookup, -⟩ := Option.map_eq_some_iff.mp hirregular
    obtain ⟨before, after, hmem, -⟩ := List.lookup_eq_some_iff.mp hlookup
    simpa using hlisted (String.ofList w, listed) (by simp [hmem])
  · obtain ⟨stem, ending, hending, rfl, hkept⟩ := keepsStem_of_regularBase? hregular
    have hendings : ∀ ending ∈ endings, ending.toList.all Char.isLower = true := by decide
    intro c hc
    rcases List.mem_append.mp hc with hc | hc
    · exact hbase c (hkept hc)
    · exact List.all_eq_true.mp (hendings ending hending) c hc

theorem IsRelatingVerb.isAlphanum {c : Char} (hc : c ∈ w) : c.isAlphanum = true :=
  isAlphanum_of_isLower (h.small c hc)

theorem IsRelatingVerb.ne_nil : w ≠ [] := by
  rintro rfl
  have hbase := h.verbBase?_eq
  rw [show verbBase? [] = none by decide +kernel] at hbase
  exact absurd hbase (by simp)

theorem IsRelatingVerb.lowerChars_eq : lowerChars w = w :=
  lowerChars_of_isLower h.small

/-- A form of a verb belongs to no closed class, unless as an irregular form. -/
theorem IsRelatingVerb.closedClass?_eq : closedClass? w = none ∨ closedClass? w = some .verb := by
  have hclosed : String.ofList w ∉ closedWords := fun hmem =>
    verbBase?_not_mem_relatingVerbs hmem (by rw [String.toList_ofList, h.verbBase?_eq])
      h.mem_relatingVerbs
  simp only [closedWords, List.mem_append, not_or] at hclosed
  obtain ⟨⟨⟨⟨⟨hdeterminer, hconjunction⟩, hpreposition⟩, hpronoun⟩, hmodal⟩, hadverb⟩ := hclosed
  simp only [closedClass?, List.contains_iff_mem, hdeterminer, hconjunction, hpreposition,
    hpronoun, hmodal, hadverb, if_false]
  split_ifs
  · exact .inr rfl
  · exact .inl rfl

/-- The token of such a verb: a verb, with its base form. -/
theorem IsRelatingVerb.lexicalToken_eq : lexicalToken w false = ⟨w, w, base, .verb⟩ := by
  have htag : lexicalTag w w false = .verb := by
    obtain ⟨c, cs, rfl⟩ := List.exists_cons_of_ne_nil h.ne_nil
    have hc := h.small c List.mem_cons_self
    have halphanumeric := isAlphanumeric_of_isAlphanum (isAlphanum_of_isLower hc)
    have hdigit := not_isPlainDigit_of_isLower hc
    have hcapital := not_isUppercase_of_isLower hc
    rcases h.closedClass?_eq with hclosed | hclosed
    · simp [lexicalTag, halphanumeric, hdigit, hcapital, hclosed, h.verbBase?_eq]
    · simp [lexicalTag, halphanumeric, hdigit, hcapital, hclosed]
  simp only [lexicalToken, h.lowerChars_eq, htag, if_true, h.verbBase?_eq, Option.getD_some]

end Verbs

/-! ## The second pass -/

/-- The second pass leaves a verb alone behind a name. -/
theorem correct_verb {ctx : LeftContext} (hctx : ctx.content = some .properNoun)
    (next : Option Token) {t : Token} (hverb : t.tag = .verb) : correct ctx next t = t := by
  unfold correct
  rw [hverb, hctx]
  simp

theorem correctFrom_append {ctx : LeftContext} (hctx : ctx.opening = false) {tokens : List Token}
    (htokens : ∀ t ∈ tokens, t.tag ≠ .verb ∧ t.tag ≠ .noun) (rest : List Token) :
    correctFrom ctx (tokens ++ rest) =
      tokens ++ correctFrom (tokens.foldl LeftContext.advance ctx) rest := by
  induction tokens generalizing ctx with
  | nil => rfl
  | cons t tokens ih =>
    obtain ⟨hverb, hnoun⟩ := htokens t List.mem_cons_self
    rw [List.cons_append, correctFrom, correct_eq_self hverb hnoun fun _ => hctx,
      ih rfl fun u hu => htokens u (List.mem_cons_of_mem t hu)]
    rfl

theorem correctFrom_eq_self {ctx : LeftContext} (hctx : ctx.opening = false) {tokens : List Token}
    (htokens : ∀ t ∈ tokens, t.tag ≠ .verb ∧ t.tag ≠ .noun) : correctFrom ctx tokens = tokens := by
  have h := correctFrom_append hctx htokens []
  rwa [List.append_nil, correctFrom, List.append_nil] at h

/-- What is known behind a name. -/
theorem foldl_advance_names (ctx : LeftContext) {tokens : List Token} (hne : tokens ≠ [])
    (htokens : ∀ t ∈ tokens, t.tag = .properNoun) :
    (tokens.foldl LeftContext.advance ctx).content = some .properNoun := by
  obtain ⟨tokens, t, rfl⟩ := (List.eq_nil_or_concat' tokens).resolve_left hne
  have ht := htokens t (List.mem_append_right _ (List.mem_singleton_self t))
  rw [List.foldl_append, List.foldl_cons, List.foldl_nil, LeftContext.advance, ht]
  rfl

/-- An article that opens a sentence. -/
def article : Token := ⟨"The".toList, "the".toList, "the".toList, .determiner⟩

/-- **The tokens of a statement** with a name for its subject: the first pass has the last word,
also on the verb, for it stands behind a name. -/
theorem tag_statement {subject : List (List Char)} (hne : subject ≠ [])
    (hsubject : ∀ w ∈ subject, IsNameWord w) {verb base : List Char}
    (hverb : IsRelatingVerb verb base) {rest : List (List Char)}
    (hrest : ∀ t ∈ rest.map (lexicalToken · false), t.tag ≠ .verb ∧ t.tag ≠ .noun) :
    tag (article.text :: (subject ++ verb :: rest)) =
      article :: (subject.map nameToken ++
        ⟨verb, verb, base, .verb⟩ :: rest.map (lexicalToken · false)) := by
  have hopening : lexicalToken article.text true = article := by decide +kernel
  have hnames : subject.map (lexicalToken · false) = subject.map nameToken :=
    List.map_congr_left fun w hw => (hsubject w hw).lexicalToken_eq
  have hproper : ∀ t ∈ subject.map nameToken, t.tag = .properNoun := by
    intro t ht
    obtain ⟨w, -, rfl⟩ := List.mem_map.mp ht
    rfl
  have hcontent := foldl_advance_names (LeftContext.start.advance article)
    (List.map_eq_nil_iff.not.mpr hne) hproper
  rw [tag, lexicalTokens, List.map_append, List.map_cons, hopening, hnames, hverb.lexicalToken_eq,
    correctFrom, show correct LeftContext.start _ article = article from rfl,
    correctFrom_append rfl (fun t ht => by rw [hproper t ht]; decide), correctFrom,
    correct_verb hcontent _ rfl, correctFrom_eq_self rfl hrest]

end Draftsman.Prose

namespace Draftsman.Extraction

open Draftsman.Text Draftsman.Prose

/-! ## Phrases -/

/-- Words with single spaces between them. -/
def phrase (ws : List (List Char)) : List Char := [' '].intercalate ws

/-- The name of a class with the given words. -/
def className (ws : List (List Char)) : String := String.ofList (phrase ws)

/-! ## Texts of one sentence -/

/-- A plain letter, a digit, a space or a comma: nothing that ends a sentence, a line or a label. -/
def isQuiet (c : Char) : Bool := c.isAlphanum || c == ' ' || c == ','

/-- What no quiet character is. -/
theorem ne_of_isQuiet {c d : Char} (h : isQuiet c = true) (hd : isQuiet d = false) : c ≠ d := by
  rintro rfl
  exact absurd h (Bool.eq_false_iff.mp hd)

theorem cutSentences_stop {body : List Char} (hbody : ∀ c ∈ body, isQuiet c = true) :
    cutSentences (body ++ ['.']) = [body ++ ['.'], []] := by
  induction body with
  | nil => rfl
  | cons c body ih =>
    have hc := hbody c List.mem_cons_self
    have hstop : endsSentence c (body ++ ['.']).head? = false := by
      rw [endsSentence, beq_eq_false_iff_ne.mpr (ne_of_isQuiet hc (by decide)),
        beq_eq_false_iff_ne.mpr (ne_of_isQuiet hc (by decide)),
        beq_eq_false_iff_ne.mpr (ne_of_isQuiet hc (by decide))]
      rfl
    rw [List.cons_append, cutSentences, hstop, if_neg Bool.false_ne_true,
      ih fun d hd => hbody d (List.mem_cons_of_mem c hd)]
    rfl

/-- The characters that may separate a label from what follows. -/
def separators : List Char := [':', '-', '–']

theorem exists_separator {cs body : List Char} (h : afterSeparator? cs = some body) :
    ∃ c ∈ cs, c ∈ separators := by
  have htrim : trimStart cs <:+ cs := List.dropWhile_suffix _
  unfold afterSeparator? at h
  split at h
  · rename_i rest heq
    exact ⟨':', htrim.subset (heq ▸ List.mem_cons_self), by decide⟩
  · rename_i c rest _ heq
    split_ifs at h with hdash
    refine ⟨c, htrim.subset (heq ▸ List.mem_cons_self), ?_⟩
    simp only [Bool.and_eq_true, Bool.or_eq_true, beq_iff_eq] at hdash
    rcases hdash.1.1 with rfl | rfl <;> decide
  · exact absurd h (by simp)

theorem labelled?_eq_none {line : List Char} (hline : ∀ c ∈ line, c ∉ separators) :
    labelled? line = none := by
  rw [labelled?_eq]
  dsimp only
  cases hafter : afterSeparator? (capitalWords (dropArticle (dropBullet (trimStart line)))).2 with
  | none => exact ite_self none
  | some body =>
    obtain ⟨c, hc, hseparator⟩ := exists_separator hafter
    exact absurd hseparator (hline c ((afterLabel_suffix line).subset hc))

/-- **A text of quiet characters with a full stop is one sentence.** -/
theorem extract_sentence {body : List Char} (hbody : ∀ c ∈ body, isQuiet c = true)
    (hfirst : ∀ c ∈ body.head?, isBlank c = false) :
    extract (String.ofList (body ++ ['.'])) =
      (sentenceFindings (body ++ ['.'])).foldl record .empty := by
  have hline : lines (body ++ ['.']) = [body ++ ['.']] := by
    refine lines_eq_singleton (by simp) fun c hc => ?_
    rcases List.mem_append.mp hc with hc | hc
    · exact ne_of_isQuiet (hbody c hc) (by decide)
    · rw [List.mem_singleton.mp hc]
      decide
  have htrimmed : Trimmed (body ++ ['.']) := by
    refine ⟨fun c hc => ?_, fun c hc => ?_⟩
    · cases body with
      | nil =>
        rw [← Option.some.inj hc]
        decide
      | cons d body => exact hfirst c hc
    · rw [List.getLast?_concat] at hc
      rw [← Option.some.inj hc]
      decide
  have hsentences : sentences (body ++ ['.']) = [body ++ ['.']] := by
    rw [sentences, cutSentences_stop hbody, List.map_cons, htrimmed.trimChars_eq,
      List.filter_cons_of_pos (by simp)]
    rfl
  have hlabel : labelled? (body ++ ['.']) = none := by
    refine labelled?_eq_none fun c hc hseparator => ?_
    rcases List.mem_append.mp hc with hc | hc
    · have hseparators : separators.all (!isQuiet ·) = true := by decide
      have hnone := List.all_eq_true.mp hseparators c hseparator
      rw [hbody c hc] at hnone
      exact absurd hnone (by decide)
    · rw [List.mem_singleton.mp hc] at hseparator
      exact absurd hseparator (by decide)
  have hfindings : lineFindings (body ++ ['.']) = sentenceFindings (body ++ ['.']) := by
    simp only [lineFindings, classify, hlabel, hsentences, List.flatMap_singleton]
  rw [extract, findings, String.toList_ofList, hline, List.flatMap_singleton, hfindings]

end Draftsman.Extraction
