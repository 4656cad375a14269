/-
Lines that list the attributes of a class.

In "- The Card: owner, card no; and valid until." the parts of the form compete for the same
characters: a dash is a bullet or ends the label, an article is one or begins the label, an "and"
introduces the last item or is a word of one. Each part is read before the next one is looked at,
so what decides is how the next one begins. Behind a bullet and an article comes a capital, no
label ends in front of another capital, and behind the mark that ends it comes no blank. So each
part is found where it was written, the items are found between their links by induction on the
list (`listItems_listText`), and the draft of the line is what the line lists (`extract_listing`).
-/
import Draftsman.Proofs.Extraction.PlainWords

set_option autoImplicit false

namespace Draftsman.Extraction

open Draftsman.Text

/-! ## The form of a line -/

/-- What may stand in front of everything else. -/
inductive Bullet where
  | none
  | dash
  | star
deriving DecidableEq, Repr

/-- A bullet as it is written, with the space behind it. -/
def Bullet.text : Bullet → List Char
  | none => []
  | dash => "- ".toList
  | star => "* ".toList

/-- What may stand in front of a label. -/
inductive Article where
  | none
  | the
  | an
  | a
deriving DecidableEq, Repr

/-- An article as it is written at the start of a line, with the space behind it. -/
def Article.text : Article → List Char
  | none => []
  | the => "The ".toList
  | an => "An ".toList
  | a => "A ".toList

/-- What ends a label. -/
inductive LabelEnd where
  | colon
  | dash
deriving DecidableEq, Repr

/-- The end of a label as it is written. A dash is one only between spaces. -/
def LabelEnd.text : LabelEnd → List Char
  | colon => ": ".toList
  | dash => " - ".toList

/-- What stands between two items of a list. -/
inductive Link where
  | comma
  | semicolon
deriving DecidableEq, Repr

/-- The mark of a link. A space follows it. -/
def Link.mark : Link → Char
  | comma => ','
  | semicolon => ';'

/-- The words that are no label where a label begins. -/
def articles : List String := ["the", "an", "a"]

/-- A plain letter, a digit or an underscore. -/
def isPlainMember (c : Char) : Bool := c.isAlphanum || c == '_'

/-- A word of a label: it begins with one of the 26 capitals. -/
structure IsLabelWord (w : List Char) : Prop where
  capital : w.head?.any Char.isUpper = true
  members : ∀ c ∈ w, isPlainMember c = true

instance (w : List Char) : Decidable (IsLabelWord w) :=
  decidable_of_iff (w.head?.any Char.isUpper = true ∧ w.all isPlainMember = true)
    ⟨fun h => ⟨h.1, List.all_eq_true.mp h.2⟩, fun h => ⟨h.capital, List.all_eq_true.mpr h.members⟩⟩

/-- A label is one or more words, and the first is no article, however it is written. -/
structure IsLabel (ws : List (List Char)) : Prop where
  ne_nil : ws ≠ []
  words : ∀ w ∈ ws, IsLabelWord w
  not_article : ∀ w ∈ ws.head?, String.ofList (w.map Char.toLower) ∉ articles

instance (ws : List (List Char)) : Decidable (IsLabel ws) :=
  decidable_of_iff (ws ≠ [] ∧ (∀ w ∈ ws, IsLabelWord w) ∧
      ∀ w ∈ ws.head?, String.ofList (w.map Char.toLower) ∉ articles)
    ⟨fun h => ⟨h.1, h.2.1, h.2.2⟩, fun h => ⟨h.ne_nil, h.words, h.not_article⟩⟩

/-- An item is one to three words in small letters, and the first is no conjunction. -/
structure IsShortItem (ws : List (List Char)) : Prop where
  ne_nil : ws ≠ []
  short : ws.length ≤ 3
  words : ∀ w ∈ ws, w ≠ [] ∧ ∀ c ∈ w, (c.isLower || c.isDigit || c == '_') = true
  not_conjunction : ∀ w ∈ ws.head?, String.ofList w ∉ ["and", "or"]

instance (ws : List (List Char)) : Decidable (IsShortItem ws) :=
  decidable_of_iff (ws ≠ [] ∧ ws.length ≤ 3 ∧
      (∀ w ∈ ws, w ≠ [] ∧ w.all (fun c => c.isLower || c.isDigit || c == '_') = true) ∧
      ∀ w ∈ ws.head?, String.ofList w ∉ ["and", "or"])
    ⟨fun h => ⟨h.1, h.2.1, fun w hw => ⟨(h.2.2.1 w hw).1, List.all_eq_true.mp (h.2.2.1 w hw).2⟩,
        h.2.2.2⟩,
      fun h => ⟨h.ne_nil, h.short,
        fun w hw => ⟨(h.words w hw).1, List.all_eq_true.mpr (h.words w hw).2⟩, h.not_conjunction⟩⟩

/-- The items of a list with their links between them, and perhaps "and" in front of the last. -/
def listText (conjunction : Bool) (item : List (List Char)) :
    List (Link × List (List Char)) → List Char
  | [] => (if conjunction then "and ".toList else []) ++ phrase item
  | (link, next) :: more => phrase item ++ (link.mark :: ' ' :: listText conjunction next more)

/-- The full stop that may close a list. -/
def stopText (stop : Bool) : List Char := if stop then ['.'] else []

/-- A line that lists items. -/
def listing (bullet : Bullet) (article : Article) (label : List (List Char)) (ending : LabelEnd)
    (conjunction : Bool) (item : List (List Char)) (more : List (Link × List (List Char)))
    (stop : Bool) : List Char :=
  bullet.text ++ (article.text ++ (phrase label ++
    (ending.text ++ (listText conjunction item more ++ stopText stop))))

/-! ## Words -/

theorem not_isBlank_of_isPlainMember {c : Char} (h : isPlainMember c = true) : isBlank c = false :=
  not_isBlank_of (P := isPlainMember) (by decide) h

theorem isPlain_of_isPlainMember {c : Char} (h : isPlainMember c = true) : isPlain c = true := by
  rcases Bool.or_eq_true_iff.mp h with h | h
  · exact isPlain_of_isAlphanum h
  · rw [eq_of_beq h]
    decide

theorem isWordMember_of_isPlainMember {c : Char} (h : isPlainMember c = true) :
    isWordMember c = true := by
  rw [isWordMember, if_pos (isPlain_of_isPlainMember h)]
  exact h

theorem IsLabelWord.exists_cons {w : List Char} (h : IsLabelWord w) :
    ∃ c cs, w = c :: cs ∧ c.isUpper = true ∧ ∀ d ∈ cs, isPlainMember d = true := by
  obtain ⟨c, hc, hupper⟩ := (Option.any_eq_true _ _).mp h.capital
  obtain ⟨cs, rfl⟩ := List.head?_eq_some_iff.mp hc
  exact ⟨c, cs, rfl, hupper, fun d hd => h.members d (List.mem_cons_of_mem c hd)⟩

theorem IsLabelWord.solid {w : List Char} (h : IsLabelWord w) : Solid w := by
  obtain ⟨c, cs, rfl, -, -⟩ := h.exists_cons
  exact ⟨List.cons_ne_nil c cs, fun d hd => not_isBlank_of_isPlainMember (h.members d hd)⟩

theorem IsShortItem.isPlainMember {ws : List (List Char)} (h : IsShortItem ws) :
    ∀ w ∈ ws, ∀ c ∈ w, isPlainMember c = true := by
  intro w hw c hc
  have hsmall := (h.words w hw).2 c hc
  rw [Bool.or_eq_true, Bool.or_eq_true] at hsmall
  refine Bool.or_eq_true_iff.mpr ?_
  rcases hsmall with (hlower | hdigit) | hunderscore
  · exact .inl (isAlphanum_of_isLower hlower)
  · exact .inl (Bool.or_eq_true_iff.mpr (.inr hdigit))
  · exact .inr hunderscore

theorem IsShortItem.solid {ws : List (List Char)} (h : IsShortItem ws) : ∀ w ∈ ws, Solid w :=
  fun w hw =>
    ⟨(h.words w hw).1, fun c hc => not_isBlank_of_isPlainMember (h.isPlainMember w hw c hc)⟩

theorem phrase_cons_cons (w v : List Char) (ws : List (List Char)) :
    phrase (w :: v :: ws) = w ++ (' ' :: phrase (v :: ws)) := by
  rw [phrase, phrase, List.intercalate_cons_cons, List.append_assoc, List.singleton_append]

/-- A phrase is its first word, and behind that nothing or a space. -/
theorem exists_phrase_cons (w : List Char) (ws : List (List Char)) :
    ∃ rest, phrase (w :: ws) = w ++ rest ∧ ∀ c ∈ rest.head?, c = ' ' := by
  cases ws with
  | nil => exact ⟨[], by rw [phrase, List.intercalate_singleton, List.append_nil], fun _ hc => nomatch hc⟩
  | cons v ws => exact ⟨_, phrase_cons_cons w v ws, fun _ hc => (Option.some.inj hc).symm⟩

/-- What holds of the characters of some words and of the space holds of their phrase. -/
theorem forall_mem_phrase {P : Char → Prop} (hspace : P ' ') {ws : List (List Char)}
    (h : ∀ w ∈ ws, ∀ c ∈ w, P c) : ∀ c ∈ phrase ws, P c :=
  forall_mem_intercalate (fun _ hc => List.mem_singleton.mp hc ▸ hspace) h

theorem startsCapital_phrase {ws : List (List Char)} (hne : ws ≠ [])
    (hwords : ∀ w ∈ ws, IsLabelWord w) (rest : List Char) :
    startsCapital (phrase ws ++ rest) = true := by
  obtain ⟨w, ws, rfl⟩ := List.exists_cons_of_ne_nil hne
  obtain ⟨c, cs, rfl, hupper, -⟩ := (hwords w List.mem_cons_self).exists_cons
  obtain ⟨more, hphrase, -⟩ := exists_phrase_cons (c :: cs) ws
  rw [hphrase]
  exact hupper

/-! ## In front of the label -/

theorem isAlpha_of_isUpper {c : Char} (h : c.isUpper = true) : c.isAlpha = true :=
  Bool.or_eq_true_iff.mpr (.inl h)

/-- Only a letter is lowered to a small letter. -/
theorem isAlpha_of_isLower_toLower {c : Char} (h : c.toLower.isLower = true) :
    c.isAlpha = true := by
  by_cases hupper : c.val ≥ 'A'.val ∧ c.val ≤ 'Z'.val
  · exact isAlpha_of_isUpper (decide_eq_true hupper)
  · have hsame : c.toLower = c := dif_neg hupper
    rw [hsame] at h
    exact Bool.or_eq_true_iff.mpr (.inr h)

theorem trimStart_of_startsCapital {cs : List Char} (h : startsCapital cs = true) :
    trimStart cs = cs := by
  obtain ⟨c, hc, hupper⟩ := (Option.any_eq_true _ _).mp h
  refine trimStart_eq_self fun d hd => ?_
  obtain rfl : c = d := Option.some.inj (hc.symm.trans hd)
  exact not_isBlank_of (P := Char.isUpper) (by decide) hupper

/-- A bullet is dropped with its blank, and nothing is dropped in front of a letter. -/
theorem dropBullet_text (bullet : Bullet) {cs : List Char}
    (h : ∀ c ∈ cs.head?, c.isAlpha = true) : dropBullet (trimStart (bullet.text ++ cs)) = cs := by
  have hblank : ∀ c ∈ cs.head?, isBlank c = false :=
    fun c hc => not_isBlank_of (P := Char.isAlpha) (by decide) (h c hc)
  cases bullet with
  | none =>
    rw [Bullet.text, List.nil_append, trimStart_eq_self hblank]
    cases cs with
    | nil => rfl
    | cons c cs =>
      have hbullet : (c == '-' || c == '*' || c == '•') = false := by
        have hletter := h c rfl
        simp only [Bool.or_eq_false_iff, beq_eq_false_iff_ne]
        refine ⟨⟨?_, ?_⟩, ?_⟩
        all_goals
          rintro rfl
          exact absurd hletter (by decide)
      rw [dropBullet, hbullet, Bool.false_and, if_neg Bool.false_ne_true]
  | dash => exact trimStart_eq_self hblank
  | star => exact trimStart_eq_self hblank

/-- An article is recognized by the word in front of the first character that is no letter. -/
theorem afterArticle?_append {article : String}
    (harticle : ∀ c ∈ article.toList, c.isLower = true) {w rest : List Char}
    (hw : ∀ c ∈ w, isBlank c = false) (hrest : ∀ c ∈ rest.head?, c.isAlpha = false) :
    afterArticle? article (w ++ rest) =
      if w.map Char.toLower = article.toList ∧ startsBlank rest = true ∧
          startsCapital (trimStart rest) = true then some (trimStart rest)
      else none := by
  have hlength : article.toList.length = article.length := String.length_toList
  have hmismatch (h : w.length ≠ article.length) : ¬(w.map Char.toLower = article.toList ∧
      startsBlank rest = true ∧ startsCapital (trimStart rest) = true) := by
    rintro ⟨heq, -, -⟩
    rw [← hlength, ← heq, List.length_map] at h
    exact h rfl
  unfold afterArticle?
  dsimp only
  rcases Nat.lt_trichotomy w.length article.length with hlt | heq | hgt
  · -- a shorter word lets something else than a letter into the article
    rw [if_neg (hmismatch hlt.ne), if_neg]
    intro h
    rw [Bool.and_eq_true, Bool.and_eq_true, beq_iff_eq] at h
    have htaken := h.1.1
    cases rest with
    | nil =>
      have hblank := h.1.2
      rw [List.append_nil, List.drop_eq_nil_of_le hlt.le] at hblank
      exact absurd hblank (by decide)
    | cons c rest =>
      have hmem : c ∈ (w ++ c :: rest).take article.length := by
        obtain ⟨k, hk⟩ := Nat.exists_eq_add_of_lt hlt
        rw [hk, Nat.add_assoc, List.take_length_add_append, List.take_succ_cons]
        exact List.mem_append_right _ List.mem_cons_self
      have hsmall := harticle (lowerPlain c) (htaken ▸ List.mem_map_of_mem hmem)
      have hnone := hrest c rfl
      rw [isAlpha_of_isLower_toLower hsmall] at hnone
      exact absurd hnone (by decide)
  · rw [← heq, List.take_left, List.drop_left]
    simp only [Bool.and_eq_true, beq_iff_eq, and_assoc]
    rfl
  · -- a longer word goes on behind the article
    rw [if_neg (hmismatch hgt.ne'), if_neg]
    intro h
    rw [Bool.and_eq_true, Bool.and_eq_true] at h
    have hblank := h.1.2
    obtain ⟨c, cs, hdrop⟩ := List.exists_cons_of_ne_nil (List.drop_eq_nil_iff.not.mpr hgt.not_ge)
    have hc : c ∈ w := List.mem_of_mem_drop (hdrop ▸ List.mem_cons_self)
    rw [List.drop_append_of_le_length hgt.le, hdrop] at hblank
    rw [startsBlank, List.cons_append, List.head?_cons, Option.any_some, hw c hc] at hblank
    exact absurd hblank Bool.false_ne_true

/-- A word is dropped as an article if it is one, and a capital follows behind blanks. -/
theorem dropArticle_append {w rest : List Char} (hw : ∀ c ∈ w, isBlank c = false)
    (hrest : ∀ c ∈ rest.head?, c.isAlpha = false) :
    dropArticle (w ++ rest) =
      if String.ofList (w.map Char.toLower) ∈ articles ∧ startsBlank rest = true ∧
          startsCapital (trimStart rest) = true then trimStart rest
      else w ++ rest := by
  have hsmall : ∀ article ∈ articles, article.toList.all Char.isLower = true := by decide
  have heach {article : String} (h : article ∈ articles) :=
    afterArticle?_append (List.all_eq_true.mp (hsmall article h)) hw hrest
  have hdrop : dropArticle (w ++ rest) =
      (articles.findSome? (afterArticle? · (w ++ rest))).getD (w ++ rest) := rfl
  rw [hdrop]
  cases hfound : articles.findSome? (afterArticle? · (w ++ rest)) with
  | none =>
    rw [Option.getD_none, if_neg]
    rintro ⟨hmem, hfollows⟩
    have hnone := List.findSome?_eq_none_iff.mp hfound _ hmem
    rw [heach hmem, if_pos ⟨String.toList_ofList.symm, hfollows⟩] at hnone
    exact absurd hnone (by simp)
  | some found =>
    obtain ⟨article, hmem, hsome⟩ := List.exists_of_findSome?_eq_some hfound
    rw [heach hmem] at hsome
    split_ifs at hsome with h
    rw [h.1, String.ofList_toList, if_pos ⟨hmem, h.2⟩, Option.getD_some]
    exact (Option.some.inj hsome).symm

/-- **In front of a label exactly the article is dropped**, if there is one. -/
theorem dropArticle_text (article : Article) {label : List (List Char)} (hlabel : IsLabel label)
    {rest : List Char} (hrest : ∀ c ∈ rest.head?, c.isAlpha = false) :
    dropArticle (article.text ++ (phrase label ++ rest)) = phrase label ++ rest := by
  have hcapital := startsCapital_phrase hlabel.ne_nil hlabel.words rest
  have hdropped {w : List Char} (hw : ∀ c ∈ w, isBlank c = false)
      (hmem : String.ofList (w.map Char.toLower) ∈ articles) :
      dropArticle (w ++ ' ' :: (phrase label ++ rest)) = phrase label ++ rest := by
    have htrim : trimStart (' ' :: (phrase label ++ rest)) = phrase label ++ rest :=
      trimStart_of_startsCapital hcapital
    have hspace : ∀ c ∈ (' ' :: (phrase label ++ rest)).head?, c.isAlpha = false :=
      fun c hc => Option.some.inj hc ▸ by decide
    rw [dropArticle_append hw hspace, htrim, if_pos ⟨hmem, rfl, hcapital⟩]
  cases article with
  | none =>
    obtain ⟨w, ws, rfl⟩ := List.exists_cons_of_ne_nil hlabel.ne_nil
    obtain ⟨more, hphrase, hmore⟩ := exists_phrase_cons w ws
    have hnext : ∀ c ∈ (more ++ rest).head?, c.isAlpha = false := by
      cases more with
      | nil => exact hrest
      | cons d more => exact fun c hc => Option.some.inj hc ▸ hmore d rfl ▸ by decide
    rw [Article.text, List.nil_append, hphrase, List.append_assoc,
      dropArticle_append (hlabel.words w List.mem_cons_self).solid.not_isBlank hnext,
      if_neg fun h => hlabel.not_article w rfl h.1]
  | the => exact hdropped (w := "The".toList) (forall_mem_of_all (by decide)) (by decide)
  | an => exact hdropped (w := "An".toList) (forall_mem_of_all (by decide)) (by decide)
  | a => exact hdropped (w := "A".toList) (forall_mem_of_all (by decide)) (by decide)

/-! ## The label -/

/-- **The words of a label are read as long as a capital follows.** -/
theorem capitalWords_phrase {ws : List (List Char)} (hne : ws ≠ [])
    (hwords : ∀ w ∈ ws, IsLabelWord w) {rest : List Char}
    (hrest : ∀ c ∈ rest.head?, isWordMember c = false)
    (hend : (startsBlank rest && startsCapital (trimStart rest)) = false) :
    capitalWords (phrase ws ++ rest) = (ws, rest) := by
  induction ws with
  | nil => exact absurd rfl hne
  | cons w ws ih =>
    obtain ⟨c, cs, rfl, hupper, hmembers⟩ := (hwords w List.mem_cons_self).exists_cons
    have hword : ∀ d ∈ cs, isWordMember d = true :=
      fun d hd => isWordMember_of_isPlainMember (hmembers d hd)
    cases ws with
    | nil =>
      rw [phrase, List.intercalate_singleton, List.cons_append, capitalWords, if_pos hupper]
      dsimp only
      rw [takeWhile_append_of_cut hword hrest, dropWhile_append_of_cut hword hrest, hend,
        if_neg Bool.false_ne_true]
    | cons v ws =>
      have hmore : ∀ u ∈ v :: ws, IsLabelWord u := fun u hu => hwords u (List.mem_cons_of_mem _ hu)
      have hcapital := startsCapital_phrase (List.cons_ne_nil v ws) hmore rest
      have hspace : ∀ d ∈ (' ' :: (phrase (v :: ws) ++ rest)).head?, isWordMember d = false :=
        fun d hd => Option.some.inj hd ▸ by decide
      have htrim : trimStart (' ' :: (phrase (v :: ws) ++ rest)) = phrase (v :: ws) ++ rest :=
        trimStart_of_startsCapital hcapital
      have hgoes : (startsBlank (' ' :: (phrase (v :: ws) ++ rest)) &&
          startsCapital (phrase (v :: ws) ++ rest)) = true := by
        rw [hcapital]
        rfl
      rw [phrase_cons_cons, List.append_assoc, List.cons_append, List.cons_append, capitalWords,
        if_pos hupper]
      dsimp only
      rw [takeWhile_append_of_cut hword hspace, dropWhile_append_of_cut hword hspace, htrim,
        if_pos hgoes, ih (List.cons_ne_nil v ws) hmore]

/-- What ends a label is no letter, and no capital follows behind its blank. -/
theorem LabelEnd.not_isWordMember (ending : LabelEnd) (body : List Char) :
    ∀ c ∈ (ending.text ++ body).head?, isWordMember c = false ∧ c.isAlpha = false := by
  cases ending with
  | colon => exact fun c hc => Option.some.inj hc ▸ by decide
  | dash => exact fun c hc => Option.some.inj hc ▸ by decide

theorem LabelEnd.ends_label (ending : LabelEnd) (body : List Char) :
    (startsBlank (ending.text ++ body) && startsCapital (trimStart (ending.text ++ body))) =
      false := by
  cases ending with
  | colon => rfl
  | dash => rfl

theorem LabelEnd.afterSeparator?_eq (ending : LabelEnd) {body : List Char}
    (hbody : ∀ c ∈ body.head?, isBlank c = false) :
    afterSeparator? (ending.text ++ body) = some body := by
  have htrim : trimStart (' ' :: body) = body := trimStart_eq_self hbody
  cases ending with
  | colon => exact congrArg some htrim
  | dash => exact congrArg some htrim

/-- **A label is found with what is listed behind it.** -/
theorem labelled?_listing (bullet : Bullet) (article : Article) {label : List (List Char)}
    (hlabel : IsLabel label) (ending : LabelEnd) {body : List Char} (hne : body ≠ [])
    (hbody : ∀ c ∈ body.head?, isBlank c = false) :
    labelled? (bullet.text ++ (article.text ++ (phrase label ++ (ending.text ++ body)))) =
      some (label, body) := by
  have hnext := ending.not_isWordMember body
  have hletter : ∀ c ∈ (article.text ++ (phrase label ++ (ending.text ++ body))).head?,
      c.isAlpha = true := by
    cases article with
    | none =>
      intro c hc
      have hcapital := startsCapital_phrase hlabel.ne_nil hlabel.words (ending.text ++ body)
      rw [Article.text, List.nil_append] at hc
      rw [startsCapital, Option.mem_def.mp hc] at hcapital
      exact isAlpha_of_isUpper hcapital
    | the => exact fun c hc => Option.some.inj hc ▸ by decide
    | an => exact fun c hc => Option.some.inj hc ▸ by decide
    | a => exact fun c hc => Option.some.inj hc ▸ by decide
  rw [labelled?_eq, dropBullet_text bullet hletter,
    dropArticle_text article hlabel fun c hc => (hnext c hc).2,
    capitalWords_phrase hlabel.ne_nil hlabel.words (fun c hc => (hnext c hc).1)
      (ending.ends_label body)]
  dsimp only
  rw [if_neg hlabel.ne_nil, ending.afterSeparator?_eq hbody, Option.filter_some,
    if_pos (by simpa using hne)]
  rfl

/-! ## Items -/

/-- What separates the items of a list. -/
def isCut (c : Char) : Bool := c == ',' || c == ';'

/-- Words that a list may hold: they are solid, and none has a full stop or a mark that separates
items. -/
structure IsItemWord (w : List Char) : Prop where
  solid : Solid w
  not_mark : ∀ c ∈ w, c ≠ '.' ∧ isCut c = false

theorem isItemWord_of_isPlainMember {w : List Char} (hne : w ≠ [])
    (hw : ∀ c ∈ w, isPlainMember c = true) : IsItemWord w := by
  refine ⟨⟨hne, fun c hc => not_isBlank_of_isPlainMember (hw c hc)⟩, fun c hc => ?_⟩
  have hmark := forall_isPlain (P := fun c => !isPlainMember c || (c != '.' && !isCut c))
    (by decide) (isPlain_of_isPlainMember (hw c hc))
  rw [hw c hc] at hmark
  simpa using hmark

/-- A lead in front of a phrase is its first word. -/
theorem afterLead?_phrase_of_ne {word : List Char} (hword : ∀ c ∈ word, isBlank c = false)
    {lead : String} (hlead : lead.toList = word ++ [' ']) {ws : List (List Char)}
    (hws : ∀ w ∈ ws, Solid w) (hne : ∀ w ∈ ws.head?, w ≠ word) :
    afterLead? lead (phrase ws) = none := by
  rw [afterLead?, if_neg]
  intro hprefix
  obtain ⟨rest, hrest⟩ := List.isPrefixOf_iff_prefix.mp hprefix
  rw [hlead, List.append_assoc, List.singleton_append] at hrest
  cases ws with
  | nil => exact List.append_ne_nil_of_right_ne_nil word (List.cons_ne_nil ' ' rest) hrest
  | cons w ws =>
    obtain ⟨more, hphrase, hmore⟩ := exists_phrase_cons w ws
    -- both words end in front of the first blank
    have hblank : ∀ c ∈ (' ' :: rest).head?, (!isBlank c) = false :=
      fun c hc => Option.some.inj hc ▸ by decide
    have hblank' : ∀ c ∈ more.head?, (!isBlank c) = false := fun c hc => hmore c hc ▸ by decide
    have hsolid : ∀ c ∈ w, (!isBlank c) = true := by
      simpa using (hws w List.mem_cons_self).not_isBlank
    rw [hphrase] at hrest
    refine hne w rfl (append_inj_of_cut (p := fun c => !isBlank c) ?_ hsolid hblank hblank' hrest).1.symm
    simpa using hword

/-- Blanks in front of words and a full stop behind them go, and so does a conjunction. -/
theorem cleanItem_phrase {blanks : List Char} (hblanks : ∀ c ∈ blanks, isBlank c = true)
    {ws : List (List Char)} (hne : ws ≠ []) (hws : ∀ w ∈ ws, IsItemWord w) (stop : Bool) :
    cleanItem (blanks ++ (phrase ws ++ stopText stop)) =
      trimChars ((afterLead? "and " (phrase ws) <|> afterLead? "or " (phrase ws)).getD
        (phrase ws)) := by
  have hsolid : ∀ w ∈ ws, Solid w := fun w hw => (hws w hw).solid
  have htrimmed : Trimmed (phrase ws) := trimmed_intercalate hsolid
  have hnonempty : phrase ws ≠ [] := intercalate_ne_nil hsolid hne
  have hstopped : Trimmed (phrase ws ++ stopText stop) := by
    cases stop with
    | false => rwa [stopText, if_neg Bool.false_ne_true, List.append_nil]
    | true => exact htrimmed.append (trimmed_singleton (by decide)) hnonempty (by decide) []
  have hdropped : dropEndWhile (· == '.') (phrase ws ++ stopText stop) = phrase ws := by
    refine dropEndWhile_append_of_cut (fun c hc => beq_eq_false_iff_ne.mpr ?_) fun c hc => ?_
    · refine forall_mem_phrase (by decide) (fun w hw c hc => ((hws w hw).not_mark c hc).1) c ?_
      exact List.mem_of_getLast? hc
    · cases stop with
      | false => exact absurd hc List.not_mem_nil
      | true => exact beq_iff_eq.mpr (List.mem_singleton.mp hc)
  have hcleaned : trimChars (blanks ++ (phrase ws ++ stopText stop)) =
      phrase ws ++ stopText stop := by
    have hnone : ∀ c ∈ ([] : List Char), isBlank c = true := fun c hc => nomatch hc
    have h := trimChars_append hblanks hstopped hnone
    rwa [List.append_nil] at h
  rw [cleanItem, hcleaned, hdropped, htrimmed.trimChars_eq]

section Items

variable {item : List (List Char)} (hitem : IsShortItem item)
include hitem

theorem IsShortItem.isItemWord : ∀ w ∈ item, IsItemWord w := fun w hw =>
  isItemWord_of_isPlainMember (hitem.words w hw).1 (hitem.isPlainMember w hw)

theorem IsShortItem.trimChars_phrase : trimChars (phrase item) = phrase item :=
  (trimmed_intercalate hitem.solid).trimChars_eq

/-- An item is cleaned of nothing but the blanks in front of it and the full stop behind it. -/
theorem IsShortItem.cleanItem_eq {blanks : List Char} (hblanks : ∀ c ∈ blanks, isBlank c = true)
    (stop : Bool) : cleanItem (blanks ++ (phrase item ++ stopText stop)) = phrase item := by
  have hfirst (word : String) (hword : word ∈ ["and", "or"]) :
      ∀ w ∈ item.head?, w ≠ word.toList := by
    intro w hw heq
    rw [heq] at hw
    exact hitem.not_conjunction _ hw (by rwa [String.ofList_toList])
  have hand : afterLead? "and " (phrase item) = none :=
    afterLead?_phrase_of_ne (forall_mem_of_all (by decide)) (by decide) hitem.solid
      (hfirst "and" (by decide))
  have hor : afterLead? "or " (phrase item) = none :=
    afterLead?_phrase_of_ne (forall_mem_of_all (by decide)) (by decide) hitem.solid
      (hfirst "or" (by decide))
  rw [cleanItem_phrase hblanks hitem.ne_nil hitem.isItemWord, hand, hor]
  exact hitem.trimChars_phrase

/-- The conjunction in front of the last item goes, too. -/
theorem IsShortItem.cleanItem_and {blanks : List Char} (hblanks : ∀ c ∈ blanks, isBlank c = true)
    (stop : Bool) :
    cleanItem (blanks ++ ("and ".toList ++ phrase item ++ stopText stop)) = phrase item := by
  have hand : "and ".toList ++ phrase item = phrase ("and".toList :: item) := by
    obtain ⟨w, ws, hcons⟩ := List.exists_cons_of_ne_nil hitem.ne_nil
    rw [hcons, phrase_cons_cons]
    rfl
  have hwords : ∀ w ∈ "and".toList :: item, IsItemWord w := by
    intro w hw
    rcases List.mem_cons.mp hw with rfl | hw
    · exact isItemWord_of_isPlainMember (by decide) (forall_mem_of_all (by decide))
    · exact hitem.isItemWord w hw
  have hlead : afterLead? "and " (phrase ("and".toList :: item)) = some (phrase item) := by
    rw [← hand]
    exact if_pos (List.isPrefixOf_iff_prefix.mpr (List.prefix_append _ _))
  rw [hand, cleanItem_phrase hblanks (List.cons_ne_nil _ item) hwords, hlead]
  exact hitem.trimChars_phrase

end Items

/-! ## Lists -/

/-- A piece that holds no mark is the only one, or the first in front of a mark. -/
theorem listItems_piece {piece : List Char} (hpiece : ∀ c ∈ piece, isCut c = false)
    (hclean : cleanItem piece ≠ []) : listItems piece = [cleanItem piece] := by
  have hpieces : piece.splitOnP (fun c => c == ',' || c == ';') = [piece] :=
    List.splitOnP_eq_singleton hpiece
  rw [listItems, hpieces, List.map_singleton, List.filter_cons_of_pos (by simpa using hclean)]
  rfl

theorem listItems_append {piece : List Char} (hpiece : ∀ c ∈ piece, isCut c = false)
    (hclean : cleanItem piece ≠ []) (link : Link) (rest : List Char) :
    listItems (piece ++ link.mark :: rest) = cleanItem piece :: listItems rest := by
  have hmark : isCut link.mark = true := by cases link <;> rfl
  have hpieces : (piece ++ link.mark :: rest).splitOnP (fun c => c == ',' || c == ';') =
      piece :: rest.splitOnP (fun c => c == ',' || c == ';') :=
    List.splitOnP_append_cons_of_forall_mem hpiece link.mark hmark rest
  rw [listItems, hpieces, List.map_cons, List.filter_cons_of_pos (by simpa using hclean)]
  rfl

theorem IsShortItem.phrase_ne_nil {item : List (List Char)} (h : IsShortItem item) :
    phrase item ≠ [] :=
  intercalate_ne_nil h.solid h.ne_nil

theorem IsShortItem.not_isCut {item : List (List Char)} (h : IsShortItem item) :
    ∀ c ∈ phrase item, isCut c = false :=
  forall_mem_phrase (by decide) fun w hw c hc => ((h.isItemWord w hw).not_mark c hc).2

/-- **The items of a list are found between its links**, with spaces in front of them or without.
The induction is on the links: behind each of them the list begins anew, with a space. -/
theorem listItems_listText (conjunction : Bool) {item : List (List Char)}
    {more : List (Link × List (List Char))}
    (hitems : ∀ i ∈ item :: more.map Prod.snd, IsShortItem i) (stop : Bool) {spaces : List Char}
    (hspaces : ∀ c ∈ spaces, c = ' ') :
    listItems (spaces ++ (listText conjunction item more ++ stopText stop)) =
      (item :: more.map Prod.snd).map phrase := by
  induction more generalizing item spaces with
  | nil =>
    have hitem := hitems item List.mem_cons_self
    have hblank : ∀ c ∈ spaces, isBlank c = true := fun c hc => hspaces c hc ▸ by decide
    have hclean : cleanItem (spaces ++ (listText conjunction item [] ++ stopText stop)) =
        phrase item := by
      cases conjunction with
      | false => exact hitem.cleanItem_eq hblank stop
      | true => exact hitem.cleanItem_and hblank stop
    have hpiece : ∀ c ∈ spaces ++ (listText conjunction item [] ++ stopText stop),
        isCut c = false := by
      have hlead : ∀ c ∈ if conjunction then "and ".toList else [], isCut c = false := by
        cases conjunction <;> exact forall_mem_of_all (by decide)
      have hstop : ∀ c ∈ stopText stop, isCut c = false := by
        cases stop <;> exact forall_mem_of_all (by decide)
      intro c hc
      rcases List.mem_append.mp hc with hc | hc
      · exact hspaces c hc ▸ by decide
      rcases List.mem_append.mp hc with hc | hc
      · rcases List.mem_append.mp hc with hc | hc
        · exact hlead c hc
        · exact hitem.not_isCut c hc
      · exact hstop c hc
    rw [listItems_piece hpiece (by rw [hclean]; exact hitem.phrase_ne_nil), hclean]
    rfl
  | cons entry more ih =>
    obtain ⟨link, next⟩ := entry
    have hitem := hitems item List.mem_cons_self
    have hblank : ∀ c ∈ spaces, isBlank c = true := fun c hc => hspaces c hc ▸ by decide
    have hpiece : ∀ c ∈ spaces ++ phrase item, isCut c = false := by
      intro c hc
      rcases List.mem_append.mp hc with hc | hc
      · exact hspaces c hc ▸ by decide
      · exact hitem.not_isCut c hc
    have hclean : cleanItem (spaces ++ phrase item) = phrase item := by
      have h := hitem.cleanItem_eq hblank false
      rwa [stopText, if_neg Bool.false_ne_true, List.append_nil] at h
    have hspace : ∀ c ∈ [' '], c = ' ' := fun c hc => List.mem_singleton.mp hc
    have hrest := ih (fun i hi => hitems i (List.mem_cons_of_mem item hi)) hspace
    rw [listText, List.append_assoc, ← List.append_assoc, List.cons_append,
      listItems_append hpiece (by rw [hclean]; exact hitem.phrase_ne_nil), hclean]
    exact congrArg (phrase item :: ·) hrest

/-! ## Lines -/

theorem exists_listText_cons (conjunction : Bool) {item : List (List Char)} (hitem : IsShortItem item)
    (more : List (Link × List (List Char))) :
    ∃ c rest, listText conjunction item more = c :: rest ∧ isBlank c = false := by
  obtain ⟨c, cs, hphrase⟩ := List.exists_cons_of_ne_nil hitem.phrase_ne_nil
  have hc : isBlank c = false := by
    refine (trimmed_intercalate hitem.solid).first c ?_
    rw [show [' '].intercalate item = c :: cs from hphrase]
    rfl
  cases more with
  | nil =>
    cases conjunction with
    | false => exact ⟨c, cs, hphrase, hc⟩
    | true => exact ⟨'a', _, rfl, by decide⟩
  | cons entry more =>
    obtain ⟨link, next⟩ := entry
    rw [listText, hphrase]
    exact ⟨c, _, rfl, hc⟩

theorem ne_lineFeed_of_isPlainMember {c : Char} (h : isPlainMember c = true) : c ≠ '\n' := by
  rintro rfl
  exact absurd h (by decide)

theorem ne_lineFeed_of_mem_listText (conjunction : Bool) {item : List (List Char)}
    {more : List (Link × List (List Char))}
    (hitems : ∀ i ∈ item :: more.map Prod.snd, IsShortItem i) :
    ∀ c ∈ listText conjunction item more, c ≠ '\n' := by
  have hphrase {i : List (List Char)} (hi : IsShortItem i) : ∀ c ∈ phrase i, c ≠ '\n' :=
    forall_mem_phrase (by decide)
      fun w hw c hc => ne_lineFeed_of_isPlainMember (hi.isPlainMember w hw c hc)
  induction more generalizing item with
  | nil =>
    have hlead : ∀ c ∈ if conjunction then "and ".toList else [], c ≠ '\n' := by
      cases conjunction <;> exact forall_mem_of_all (by decide)
    intro c hc
    rcases List.mem_append.mp hc with hc | hc
    · exact hlead c hc
    · exact hphrase (hitems item List.mem_cons_self) c hc
  | cons entry more ih =>
    obtain ⟨link, next⟩ := entry
    have hmark : link.mark ≠ '\n' := by cases link <;> decide
    intro c hc
    rcases List.mem_append.mp hc with hc | hc
    · exact hphrase (hitems item List.mem_cons_self) c hc
    rcases List.mem_cons.mp hc with rfl | hc
    · exact hmark
    rcases List.mem_cons.mp hc with rfl | hc
    · decide
    · exact ih (fun i hi => hitems i (List.mem_cons_of_mem item hi)) c hc

section Listings

variable (bullet : Bullet) (article : Article) {label : List (List Char)} (hlabel : IsLabel label)
  (ending : LabelEnd) (conjunction : Bool) {item : List (List Char)}
  {more : List (Link × List (List Char))}
  (hitems : ∀ i ∈ item :: more.map Prod.snd, IsShortItem i) (stop : Bool)
include hlabel hitems

theorem classify_listing :
    classify (listing bullet article label ending conjunction item more stop) =
      .attributes (phrase label) ((item :: more.map Prod.snd).map phrase) := by
  obtain ⟨c, rest, hlist, hc⟩ :=
    exists_listText_cons conjunction (hitems item List.mem_cons_self) more
  have hbody : ∀ d ∈ (listText conjunction item more ++ stopText stop).head?, isBlank d = false := by
    rw [hlist]
    exact fun d hd => Option.some.inj hd ▸ hc
  have hne : listText conjunction item more ++ stopText stop ≠ [] := by
    rw [hlist]
    exact List.cons_ne_nil c _
  have hlisted : listItems ([] ++ (listText conjunction item more ++ stopText stop)) =
      (item :: more.map Prod.snd).map phrase :=
    listItems_listText conjunction hitems stop fun c hc => nomatch hc
  have hshort : ((item :: more.map Prod.snd).map phrase).all
      (fun item => decide ((words item).length ≤ maxAttributeWords)) = true := by
    rw [List.all_map, List.all_eq_true]
    intro i hi
    have hwords : words (phrase i) = i := words_intercalate (hitems i hi).solid
    rw [Function.comp_apply, hwords]
    exact decide_eq_true (hitems i hi).short
  rw [listing, classify, labelled?_listing bullet article hlabel ending hne hbody]
  dsimp only
  rw [List.nil_append] at hlisted
  rw [hlisted, if_pos hshort]
  rfl

theorem lines_listing :
    lines (listing bullet article label ending conjunction item more stop) =
      [listing bullet article label ending conjunction item more stop] := by
  have hlabelled : phrase label ≠ [] :=
    intercalate_ne_nil (fun w hw => (hlabel.words w hw).solid) hlabel.ne_nil
  refine lines_eq_singleton (fun hnil => ?_) fun c hc => ?_
  · simp only [listing, List.append_eq_nil_iff] at hnil
    exact hlabelled hnil.2.2.1
  · have hbullet : ∀ c ∈ bullet.text, c ≠ '\n' := by
      cases bullet <;> exact forall_mem_of_all (by decide)
    have harticle : ∀ c ∈ article.text, c ≠ '\n' := by
      cases article <;> exact forall_mem_of_all (by decide)
    have hending : ∀ c ∈ ending.text, c ≠ '\n' := by
      cases ending <;> exact forall_mem_of_all (by decide)
    have hstop : ∀ c ∈ stopText stop, c ≠ '\n' := by
      cases stop <;> exact forall_mem_of_all (by decide)
    have hwords : ∀ c ∈ phrase label, c ≠ '\n' := forall_mem_phrase (by decide)
      fun w hw c hc => ne_lineFeed_of_isPlainMember ((hlabel.words w hw).members c hc)
    simp only [listing, List.mem_append] at hc
    rcases hc with hc | hc | hc | hc | hc | hc
    · exact hbullet c hc
    · exact harticle c hc
    · exact hwords c hc
    · exact hending c hc
    · exact ne_lineFeed_of_mem_listText conjunction hitems c hc
    · exact hstop c hc

end Listings

/-! ## Drafts -/

/-- Attributes that are recorded over attributes. -/
theorem foldl_record_attributes (name : String) (known items : List String) :
    (items.map (Finding.attribute name)).foldl record ⟨[⟨name, known, []⟩], []⟩ =
      ⟨[⟨name, addAll id known items, []⟩], []⟩ := by
  induction items generalizing known with
  | nil => rfl
  | cons item items ih =>
    have hrecord : record ⟨[⟨name, known, []⟩], []⟩ (.attribute name item) =
        ⟨[⟨name, addNew id known item, []⟩], []⟩ := by
      rw [← appendNew_eq_addNew]
      exact congrArg (ClassModel.mk · []) (if_pos (beq_self_eq_true name))
    rw [List.map_cons, List.foldl_cons, hrecord, ih, addAll_cons]

/-- **A line that lists attributes is read as it was written**, whatever its bullet and its article
are, what ends its label and what links its items. The draft of the line is one class with the
label for its name, and with the items for its attributes, each where it is listed first. -/
theorem extract_listing (bullet : Bullet) (article : Article) {label : List (List Char)}
    (hlabel : IsLabel label) (ending : LabelEnd) (conjunction : Bool) {item : List (List Char)}
    {more : List (Link × List (List Char))}
    (hitems : ∀ i ∈ item :: more.map Prod.snd, IsShortItem i) (stop : Bool) :
    extract (String.ofList (listing bullet article label ending conjunction item more stop)) =
      ⟨[⟨className label, ((item :: more.map Prod.snd).map className).eraseDups, []⟩], []⟩ := by
  have hattributes : ((item :: more.map Prod.snd).map phrase).map
      (fun i => Finding.attribute (String.ofList (phrase label)) (String.ofList i)) =
        ((item :: more.map Prod.snd).map className).map (Finding.attribute (className label)) := by
    rw [List.map_map, List.map_map]
    rfl
  rw [extract, findings, String.toList_ofList,
    lines_listing bullet article hlabel ending conjunction hitems stop, List.flatMap_singleton,
    lineFindings, classify_listing bullet article hlabel ending conjunction hitems stop]
  dsimp only
  rw [List.foldl_cons, hattributes, eraseDups_eq_addAll]
  exact foldl_record_attributes (className label) [] _

/-- A label with an article within it, an item with a conjunction within it, and an item twice. -/
theorem extract_listing_of_card :
    let label := ["A_1".toList, "The".toList]
    let item := ["and_".toList, "or".toList]
    let more := [(Link.comma, ["card".toList, "no".toList]),
      (Link.semicolon, ["card".toList, "no".toList]), (Link.comma, ["valid".toList])]
    IsLabel label ∧ (∀ i ∈ item :: more.map Prod.snd, IsShortItem i) ∧
      String.ofList (listing .star .an label .dash true item more true) =
        "* An A_1 The - and_ or, card no; card no, and valid." ∧
      extract "* An A_1 The - and_ or, card no; card no, and valid." =
        ⟨[⟨"A_1 The", ["and_ or", "card no", "valid"], []⟩], []⟩ := by
  intro label item more
  have hlabel : IsLabel label := by decide
  have hitems : ∀ i ∈ item :: more.map Prod.snd, IsShortItem i := by decide
  have htext : String.ofList (listing .star .an label .dash true item more true) =
      "* An A_1 The - and_ or, card no; card no, and valid." := by decide +kernel
  refine ⟨hlabel, hitems, htext, ?_⟩
  rw [← htext, extract_listing .star .an hlabel .dash true hitems true]
  decide +kernel

end Draftsman.Extraction
