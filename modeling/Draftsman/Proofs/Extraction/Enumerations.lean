/-
Statements that relate one class to an enumeration of others.

In "The Order contains Items, Payments and the like" everything depends on three cuts: the names
are the runs of capitals, the subject is the last of them in front of the verb, and the objects are
read from the verb on, separator by separator. For plain words all three are found to be what was
written, by one induction each on the enumeration (`nameRuns_series`, `objectItems_series`). No
other token is a verb or a modal, so that nothing else is found, and the draft of the statement is
what the statement says (`extract_statement`).
-/
import Draftsman.Proofs.Extraction.PlainWords

set_option autoImplicit false

namespace Draftsman.Extraction

open Draftsman.Text Draftsman.Prose

/-! ## Enumerations -/

/-- The token of a mark. -/
def markToken (c : Char) : Token := ⟨[c], [c], [c], .punctuation⟩

/-- The token of the conjunction. -/
def andToken : Token := ⟨"and".toList, "and".toList, "and".toList, .conjunction⟩

/-- What stands between two items of an enumeration. -/
inductive Separator where
  | comma
  | conjunction
  | both
deriving DecidableEq, Repr

namespace Separator

/-- A separator as it is written between two items, with the spaces around it. -/
def text : Separator → List Char
  | comma => ", ".toList
  | conjunction => " and ".toList
  | both => ", and ".toList

/-- The words of a separator. -/
def words : Separator → List (List Char)
  | comma => [",".toList]
  | conjunction => ["and".toList]
  | both => [",".toList, "and".toList]

/-- The tokens of a separator. -/
def tokens : Separator → List Token
  | comma => [markToken ',']
  | conjunction => [andToken]
  | both => [markToken ',', andToken]

theorem map_words (s : Separator) : s.words.map (lexicalToken · false) = s.tokens := by
  cases s <;> decide +kernel

theorem tag_of_mem_tokens {s : Separator} {t : Token} (ht : t ∈ s.tokens) :
    t.tag = .punctuation ∨ t.tag = .conjunction := by
  cases s with
  | comma =>
    rw [List.mem_singleton.mp ht]
    exact .inl rfl
  | conjunction =>
    rw [List.mem_singleton.mp ht]
    exact .inr rfl
  | both =>
    rcases List.mem_pair.mp ht with rfl | rfl
    · exact .inl rfl
    · exact .inr rfl

end Separator

section Series

variable {α β : Type}

/-- The items of an enumeration with links between them: a comma, and in front of the last item a
conjunction, with a comma or without one. -/
def series (link : Separator → List α) (comma : Bool) : List (List α) → List α
  | [] => []
  | [item] => item
  | item :: next :: rest =>
    item ++ (link (if rest.isEmpty then if comma then .both else .conjunction else .comma)
      ++ series link comma (next :: rest))

theorem exists_series_cons (link : Separator → List α) (comma : Bool) (item : List α)
    (items : List (List α)) : ∃ more, series link comma (item :: items) = item ++ more := by
  cases items with
  | nil => exact ⟨[], (List.append_nil item).symm⟩
  | cons next rest => exact ⟨_, rfl⟩

theorem map_series (link : Separator → List α) (comma : Bool) (f : α → β)
    (items : List (List α)) :
    (series link comma items).map f =
      series (fun s => (link s).map f) comma (items.map (List.map f)) := by
  fun_induction series link comma items with
  | case1 => rfl
  | case2 item => rfl
  | case3 item next rest ih =>
    rw [List.map_append, List.map_append, ih]
    simp [series]

theorem forall_mem_series {P : α → Prop} {link : Separator → List α}
    (hlink : ∀ s, ∀ a ∈ link s, P a) (comma : Bool) {items : List (List α)}
    (hitems : ∀ item ∈ items, ∀ a ∈ item, P a) :
    ∀ a ∈ series link comma items, P a := by
  fun_induction series link comma items with
  | case1 => exact fun a ha => absurd ha List.not_mem_nil
  | case2 item => exact hitems item (List.mem_singleton_self item)
  | case3 item next rest ih =>
    intro a ha
    rcases List.mem_append.mp ha with ha | ha
    · exact hitems item List.mem_cons_self a ha
    rcases List.mem_append.mp ha with ha | ha
    · exact hlink _ a ha
    · exact ih (fun item hitem => hitems item (List.mem_cons_of_mem _ hitem)) a ha

end Series

/-- A plain name: one or more words. -/
structure IsPlainName (ws : List (List Char)) : Prop where
  ne_nil : ws ≠ []
  words : ∀ w ∈ ws, IsNameWord w

instance (ws : List (List Char)) : Decidable (IsPlainName ws) :=
  decidable_of_iff (ws ≠ [] ∧ ∀ w ∈ ws, IsNameWord w)
    ⟨fun h => ⟨h.1, h.2⟩, fun h => ⟨h.ne_nil, h.words⟩⟩

/-! ## Words -/

section Words

variable {ws : List (List Char)} (hws : IsPlainName ws)
include hws

theorem IsPlainName.readable : ∀ w ∈ ws, w ≠ [] ∧ ∀ d ∈ w, isAlphanumeric d = true := by
  intro w hw
  obtain ⟨c, cs, rfl, -⟩ := (hws.words w hw).exists_cons
  exact ⟨List.cons_ne_nil c cs, fun d hd =>
    isAlphanumeric_of_isAlphanum ((hws.words _ hw).alphanumeric d hd)⟩

/-- A name and the separator behind it. -/
theorem tokenize_separator (s : Separator) (rest : List Char) :
    tokenize (phrase ws ++ (s.text ++ rest)) = ws ++ (s.words ++ tokenize rest) := by
  have hand : tokenize ("and".toList ++ ' ' :: rest) = "and".toList :: tokenize rest :=
    tokenize_word (by decide) (by decide) (List.all_eq_true.mp (by decide)) rest
  have hcut (c : Char) (hc : isBreak c = true) (rest : List Char) :
      tokenize (phrase ws ++ c :: rest) = ws ++ (marksOf c ++ tokenize rest) :=
    tokenize_phrase hc hws.ne_nil hws.readable rest
  have hblank (rest : List Char) : tokenize (' ' :: rest) = tokenize rest :=
    tokenize_break (by decide) rest
  cases s with
  | comma =>
    show tokenize (phrase ws ++ ',' :: ' ' :: rest) = _
    rw [hcut ',' (by decide), hblank]
    rfl
  | conjunction =>
    show tokenize (phrase ws ++ ' ' :: ("and".toList ++ ' ' :: rest)) = _
    rw [hcut ' ' (by decide), hand]
    rfl
  | both =>
    show tokenize (phrase ws ++ ',' :: ' ' :: ("and".toList ++ ' ' :: rest)) = _
    rw [hcut ',' (by decide), hblank, hand]
    rfl

end Words

/-- **The words of an enumeration** are the words of its items and of the separators. -/
theorem tokenize_series (comma : Bool) {items : List (List (List Char))} (hne : items ≠ [])
    (hitems : ∀ item ∈ items, IsPlainName item) (rest : List Char) :
    tokenize (series Separator.text comma (items.map phrase) ++ '.' :: rest) =
      series Separator.words comma items ++ (['.'] :: tokenize rest) := by
  induction items with
  | nil => exact absurd rfl hne
  | cons item items ih =>
    have hitem := hitems item List.mem_cons_self
    cases items with
    | nil => exact tokenize_phrase (by decide) hitem.ne_nil hitem.readable rest
    | cons next items =>
      simp only [List.map_cons, series, List.append_assoc, List.isEmpty_map]
      rw [tokenize_separator hitem, ← List.map_cons,
        ih (List.cons_ne_nil _ _) fun i hi => hitems i (List.mem_cons_of_mem item hi)]

/-- An article, a name, a verb and an enumeration, without the full stop. -/
def statementBody (comma : Bool) (subject : List (List Char)) (verb : List Char)
    (objects : List (List (List Char))) : List Char :=
  "The".toList ++ ' ' :: (phrase subject ++ ' ' ::
    (verb ++ ' ' :: series Separator.text comma (objects.map phrase)))

/-- "The S v O₁, O₂ and O₃." -/
def statement (comma : Bool) (subject : List (List Char)) (verb : List Char)
    (objects : List (List (List Char))) : String :=
  String.ofList (statementBody comma subject verb objects ++ ['.'])

/-! ## Cuts -/

/-- The tokens of a name. -/
structure IsRun (item : List Token) : Prop where
  ne_nil : item ≠ []
  proper : ∀ t ∈ item, t.isProperNoun = true

theorem isRun_map_nameToken {ws : List (List Char)} (hws : ws ≠ []) :
    IsRun (ws.map nameToken) := by
  refine ⟨List.map_eq_nil_iff.not.mpr hws, fun t ht => ?_⟩
  obtain ⟨w, -, rfl⟩ := List.mem_map.mp ht
  rfl

theorem isRun_of_mem_names {names : List (List (List Char))}
    (hnames : ∀ ws ∈ names, IsPlainName ws) :
    ∀ item ∈ names.map (List.map nameToken), IsRun item := by
  intro item hitem
  obtain ⟨ws, hws, rfl⟩ := List.mem_map.mp hitem
  exact isRun_map_nameToken (hnames ws hws).ne_nil

theorem not_isProperNoun_of_mem_tokens {s : Separator} :
    ∀ t ∈ s.tokens, t.isProperNoun = false := fun _ ht =>
  (Separator.tag_of_mem_tokens ht).elim (not_isProperNoun_of_tag · (by decide))
    (not_isProperNoun_of_tag · (by decide))

theorem beginsApart_separator (s : Separator) (rest : List Token) :
    BeginsApart (s.tokens ++ rest) := by
  intro t ht
  have hne : s.tokens ≠ [] := by cases s <;> exact List.cons_ne_nil _ _
  rw [List.head?_append_of_ne_nil _ hne] at ht
  exact not_isProperNoun_of_mem_tokens t (List.mem_of_head? ht)

section Series

variable (comma : Bool) {items : List (List Token)} (hitems : ∀ item ∈ items, IsRun item)
  {rest : List Token} (hrest : BeginsApart rest)
include hitems hrest

/-- **The runs of an enumeration are its items.** -/
theorem nameRuns_series :
    nameRuns (series Separator.tokens comma items ++ rest) = items ++ nameRuns rest := by
  induction items with
  | nil => rfl
  | cons item items ih =>
    have hitem := hitems item List.mem_cons_self
    cases items with
    | nil => exact nameRuns_append hitem.ne_nil hitem.proper hrest
    | cons next items =>
      rw [series, List.append_assoc, List.append_assoc,
        nameRuns_append hitem.ne_nil hitem.proper (beginsApart_separator _ _),
        nameRuns_append_of_forall not_isProperNoun_of_mem_tokens,
        ih fun i hi => hitems i (List.mem_cons_of_mem item hi)]
      rfl

end Series

/-! ## Objects -/

/-- The first item of a list that is a name: the word behind it decides whether the list goes
on. -/
theorem objectItems_append {item : List Token} (hitem : IsRun item) {separator : Token}
    (hseparator : separator.isNoun = false) (rest : List Token) :
    objectItems (item ++ separator :: rest) =
      item :: if separator.isSeparator then objectItems (dropConjunction rest) else [] := by
  have hnone : ∀ t ∈ ([] : List Token), isModifier t = true := fun t ht => nomatch ht
  have hnouns : ∀ t ∈ item, t.isNoun = true := by
    intro t ht
    rw [Token.isNoun, ← Token.isProperNoun, hitem.proper t ht, Bool.or_true]
  exact objectItems_eq_cons hnone hitem.ne_nil hnouns fun t ht => Option.some.inj ht ▸ hseparator

/-- A separator is read, whichever it is, and the item behind it is next. -/
theorem objectItems_separator {item : List Token} (hitem : IsRun item) (s : Separator)
    {next : Token} (hnext : next.isProperNoun = true) (rest : List Token) :
    objectItems (item ++ (s.tokens ++ next :: rest)) = item :: objectItems (next :: rest) := by
  have hdrop : dropConjunction (next :: rest) = next :: rest := by
    have hconjunction : next.tag ≠ .conjunction := by
      intro htag
      rw [not_isProperNoun_of_tag htag (by decide)] at hnext
      exact absurd hnext Bool.false_ne_true
    rw [dropConjunction, if_neg hconjunction]
  have hitems (separator : Token) (hnoun : separator.isNoun = false)
      (hseparator : separator.isSeparator = true) (rest : List Token) :
      objectItems (item ++ separator :: rest) = item :: objectItems (dropConjunction rest) := by
    rw [objectItems_append hitem hnoun, if_pos hseparator]
  cases s with
  | comma => exact (hitems (markToken ',') rfl rfl (next :: rest)).trans (by rw [hdrop])
  | conjunction => exact (hitems andToken rfl rfl (next :: rest)).trans (by rw [hdrop])
  | both => exact hitems (markToken ',') rfl rfl (andToken :: next :: rest)

/-- **The objects of an enumeration are its items.** -/
theorem objectItems_series (comma : Bool) {items : List (List Token)} (hne : items ≠ [])
    (hitems : ∀ item ∈ items, IsRun item) :
    objectItems (series Separator.tokens comma items ++ [markToken '.']) = items := by
  induction items with
  | nil => exact absurd rfl hne
  | cons item items ih =>
    have hitem := hitems item List.mem_cons_self
    cases items with
    | nil => exact objectItems_append hitem rfl []
    | cons next items =>
      have ih := ih (List.cons_ne_nil _ _) fun i hi => hitems i (List.mem_cons_of_mem item hi)
      -- the next item begins with a proper noun, so that no conjunction is dropped there
      obtain ⟨more, hmore⟩ := exists_series_cons Separator.tokens comma next items
      have hnext := hitems next (List.mem_cons_of_mem _ List.mem_cons_self)
      obtain ⟨t, rest, rfl⟩ := List.exists_cons_of_ne_nil hnext.ne_nil
      have ht := hnext.proper t List.mem_cons_self
      rw [hmore] at ih
      rw [series, List.append_assoc, List.append_assoc, hmore]
      exact (objectItems_separator hitem _ ht _).trans (congrArg (item :: ·) ih)

/-- An enumeration of names has no verbs in it, no modals and no other nouns. -/
theorem tag_of_mem_series (comma : Bool) {items : List (List Token)}
    (hitems : ∀ item ∈ items, IsRun item) :
    ∀ t ∈ series Separator.tokens comma items ++ [markToken '.'],
      t.tag = .properNoun ∨ t.tag = .punctuation ∨ t.tag = .conjunction := by
  intro t ht
  rcases List.mem_append.mp ht with ht | ht
  · refine forall_mem_series (P := fun t => t.tag = .properNoun ∨ t.tag = .punctuation ∨
      t.tag = .conjunction) (fun s t ht => .inr (Separator.tag_of_mem_tokens ht)) comma ?_ t ht
    exact fun item hitem t ht => .inl (eq_of_beq ((hitems item hitem).proper t ht))
  · rw [List.mem_singleton.mp ht]
    exact .inr (.inl rfl)

/-! ## Findings -/

section Views

variable {P : Token → Prop} {f : View → List Finding} (hf : ∀ v, P v.token → f v = [])
include hf

theorem flatMap_viewsAfter_append {tokens : List Token} (htokens : ∀ t ∈ tokens, P t)
    (before rest : List Token) :
    (viewsAfter before (tokens ++ rest)).flatMap f =
      (viewsAfter (tokens.reverse ++ before) rest).flatMap f := by
  induction tokens generalizing before with
  | nil => rfl
  | cons t tokens ih =>
    rw [List.cons_append, viewsAfter, List.flatMap_cons, hf _ (htokens t List.mem_cons_self),
      List.nil_append, ih fun u hu => htokens u (List.mem_cons_of_mem t hu), List.reverse_cons,
      List.append_assoc, List.singleton_append]

/-- Where one word alone says something. -/
theorem flatMap_views_eq {a b : List Token} {t : Token} (ha : ∀ u ∈ a, P u) (hb : ∀ u ∈ b, P u) :
    (views (a ++ t :: b)).flatMap f = f ⟨a.reverse, t, b⟩ := by
  have h := flatMap_viewsAfter_append hf hb (t :: a.reverse) []
  rw [List.append_nil] at h
  rw [views, flatMap_viewsAfter_append hf ha, viewsAfter, List.flatMap_cons, List.append_nil, h]
  exact List.append_nil _

end Views

theorem attributeFindings_eq_nil {v : View} (h : v.token.tag ≠ .verb) :
    attributeFindings v = [] := by
  rw [attributeFindings, if_neg (by simp [h])]

theorem methodFindings_eq_nil {v : View} (h : v.token.tag ≠ .modal) : methodFindings v = [] :=
  if_neg h

theorem relationshipFindings_eq_nil {sentence : List Char} {v : View} (h : v.token.tag ≠ .verb) :
    relationshipFindings sentence v = [] := by
  rw [relationshipFindings, if_neg (by simp [h])]

/-- The subject of a verb that stands behind a name. -/
theorem subject?_eq {subject before : List Token} (hsubject : IsRun subject)
    (hbefore : EndsApart before) : subject? ((before ++ subject).reverse) = some subject := by
  have hproper : ∀ t ∈ subject.reverse, t.isProperNoun = true := fun t ht =>
    hsubject.proper t (List.mem_reverse.mp ht)
  obtain ⟨t, rest, hsplit⟩ :=
    List.exists_cons_of_ne_nil (List.reverse_eq_nil_iff.not.mpr hsubject.ne_nil)
  have htransparent : ¬ isTransparent t = true := fun htransparent =>
    Bool.false_ne_true ((not_isProperNoun_of_isTransparent htransparent).symm.trans
      (hproper t (hsplit ▸ List.mem_cons_self)))
  have hdrop : (subject.reverse ++ before.reverse).dropWhile isTransparent =
      subject.reverse ++ before.reverse := by
    rw [hsplit, List.cons_append, List.dropWhile_cons_of_neg htransparent]
  have htake : before.reverse.takeWhile Token.isProperNoun = [] := by
    cases hreverse : before.reverse with
    | nil => rfl
    | cons u more =>
      have hlast : before.getLast? = some u := by rw [← List.head?_reverse, hreverse]; rfl
      exact List.takeWhile_cons_of_neg (by rw [hbefore u hlast]; exact Bool.false_ne_true)
  have hrun : ((before ++ subject).reverse.dropWhile isTransparent).takeWhile
      Token.isProperNoun = subject.reverse := by
    rw [List.reverse_append, hdrop, List.takeWhile_append_of_pos hproper, htake, List.append_nil]
  unfold subject?
  rw [hrun]
  split
  · rename_i hnil
    exact absurd (List.reverse_eq_nil_iff.mp hnil) hsubject.ne_nil
  · rw [List.reverse_reverse]

/-- The kind of a relationship that a verb of the vocabularies states. -/
def kindOf (base : List Char) : RelationshipKind :=
  if String.ofList base ∈ inheritanceVerbs then .inheritance else .composition

theorem relationshipOf_eq (sentence : List Char) {verb base : List Char}
    (hverb : IsRelatingVerb verb base) (subject object : List Token) :
    relationshipOf sentence ⟨verb, verb, base, .verb⟩ subject object =
      ⟨nameText subject, nameText object, kindOf base, ""⟩ := by
  have hmem := hverb.mem_relatingVerbs
  rw [relatingVerbs, List.mem_append] at hmem
  unfold relationshipOf kindOf
  simp only [inVocabulary, List.contains_iff_mem]
  by_cases hinheritance : String.ofList base ∈ inheritanceVerbs
  · rw [if_pos hinheritance, if_pos hinheritance]
  · rw [if_neg hinheritance, if_neg hinheritance, if_pos (hmem.resolve_left hinheritance)]

theorem endsApart_article : EndsApart [article] :=
  endsApart_of_forall fun t ht => by
    rw [List.mem_singleton.mp ht]
    rfl

theorem isName_of_isRun {item : List Token} (h : IsRun item) : isName item = true :=
  List.all_eq_true.mpr h.proper

/-- The tokens of a statement: an article, a name, a verb and an enumeration. -/
def statementTokens (comma : Bool) (subject : List Token) (verb base : List Char)
    (items : List (List Token)) : List Token :=
  [article] ++ subject ++
    ⟨verb, verb, base, .verb⟩ :: (series Separator.tokens comma items ++ [markToken '.'])

section Tokens

variable (comma : Bool) {subject : List Token} (hsubject : IsRun subject)
  {items : List (List Token)} (hitems : ∀ item ∈ items, IsRun item)
include hsubject hitems

theorem nameRuns_statement (verb base : List Char) :
    nameRuns (statementTokens comma subject verb base items) = subject :: items := by
  have hstop : BeginsApart [markToken '.'] := fun t ht => by
    rw [← Option.some.inj ht]
    rfl
  have hverb (rest : List Token) : BeginsApart (⟨verb, verb, base, .verb⟩ :: rest) := fun t ht => by
    rw [← Option.some.inj ht]
    rfl
  rw [statementTokens, List.append_assoc, nameRuns_append_of_forall (fun t ht => ?_),
    nameRuns_append hsubject.ne_nil hsubject.proper (hverb _), nameRuns_cons_of_not rfl,
    nameRuns_series comma hitems hstop, nameRuns_cons_of_not rfl, nameRuns_nil, List.append_nil]
  rw [List.mem_singleton.mp ht]
  rfl

/-- No word of a statement is a modal, and none but the verb is a verb. -/
theorem tags_statement :
    (∀ t ∈ [article] ++ subject, t.tag ≠ .verb ∧ t.tag ≠ .modal) ∧
    ∀ t ∈ series Separator.tokens comma items ++ [markToken '.'],
      t.tag ≠ .verb ∧ t.tag ≠ .modal := by
  refine ⟨fun t ht => ?_, fun t ht => ?_⟩
  · rcases List.mem_append.mp ht with ht | ht
    · rw [List.mem_singleton.mp ht]
      decide
    · rw [eq_of_beq (hsubject.proper t ht)]
      decide
  · rcases tag_of_mem_series comma hitems t ht with htag | htag | htag <;>
      (rw [htag]; decide)

/-- The verb says what a statement says. -/
theorem flatMap_views_statement {f : View → List Finding} (verb base : List Char)
    (hf : ∀ v, v.token.tag ≠ .verb ∧ v.token.tag ≠ .modal → f v = []) :
    (views (statementTokens comma subject verb base items)).flatMap f =
      f ⟨([article] ++ subject).reverse, ⟨verb, verb, base, .verb⟩,
        series Separator.tokens comma items ++ [markToken '.']⟩ := by
  obtain ⟨hfront, hback⟩ := tags_statement comma hsubject hitems
  exact flatMap_views_eq (P := fun t => t.tag ≠ .verb ∧ t.tag ≠ .modal) hf hfront hback

/-- The verb of a statement gives its subject no attributes: all its objects are names. -/
theorem attributeFindings_statement (hne : items ≠ []) (verb base : List Char) :
    (views (statementTokens comma subject verb base items)).flatMap attributeFindings = [] := by
  have hnames : items.filter (fun item => !isName item) = [] :=
    List.filter_eq_nil_iff.mpr fun item hitem => by rw [isName_of_isRun (hitems item hitem)]; decide
  rw [flatMap_views_statement comma hsubject hitems verb base fun v hv =>
    attributeFindings_eq_nil hv.1, attributeFindings]
  split_ifs
  · simp only [subject?_eq hsubject endsApart_article, objectItems_series comma hne hitems, hnames,
      List.map_nil]
  · rfl

theorem methodFindings_statement (verb base : List Char) :
    (views (statementTokens comma subject verb base items)).flatMap methodFindings = [] := by
  rw [flatMap_views_statement comma hsubject hitems verb base fun v hv =>
    methodFindings_eq_nil hv.2]
  exact methodFindings_eq_nil (show Tag.verb ≠ .modal by decide)

/-- The verb relates its subject to each of its objects. -/
theorem relationshipFindings_statement (hne : items ≠ []) {verb base : List Char}
    (hverb : IsRelatingVerb verb base) (sentence : List Char) :
    (views (statementTokens comma subject verb base items)).flatMap
        (relationshipFindings sentence) =
      items.map fun item => .related ⟨nameText subject, nameText item, kindOf base, ""⟩ := by
  have hnames : items.filter isName = items :=
    List.filter_eq_self.mpr fun item hitem => isName_of_isRun (hitems item hitem)
  have hdo : base ≠ "do".toList := by
    rintro rfl
    exact absurd hverb.mem_relatingVerbs (by decide +kernel)
  have hdrop : (series Separator.tokens comma items ++ [markToken '.']).dropWhile
      (fun t => t.tag = .preposition) = series Separator.tokens comma items ++ [markToken '.'] := by
    obtain ⟨item, items, rfl⟩ := List.exists_cons_of_ne_nil hne
    obtain ⟨more, hmore⟩ := exists_series_cons Separator.tokens comma item items
    have hitem := hitems item List.mem_cons_self
    obtain ⟨t, rest, rfl⟩ := List.exists_cons_of_ne_nil hitem.ne_nil
    have ht := hitem.proper t List.mem_cons_self
    rw [hmore, List.cons_append, List.cons_append, List.dropWhile_cons_of_neg]
    intro hpreposition
    rw [not_isProperNoun_of_tag (of_decide_eq_true hpreposition) (by decide)] at ht
    exact Bool.false_ne_true ht
  rw [flatMap_views_statement comma hsubject hitems verb base fun v hv =>
    relationshipFindings_eq_nil hv.1, relationshipFindings]
  refine (if_pos (Bool.and_eq_true_iff.mpr ⟨rfl, decide_eq_true hdo⟩)).trans ?_
  simp only [subject?_eq hsubject endsApart_article, hdrop, objectItems_series comma hne hitems,
    hnames, relationshipOf_eq sentence hverb]

end Tokens

section Statements

variable (comma : Bool) {subject : List (List Char)} (hsubject : IsPlainName subject)
  {verb base : List Char} (hverb : IsRelatingVerb verb base)
  {objects : List (List (List Char))} (hne : objects ≠ []) (hobjects : ∀ o ∈ objects, IsPlainName o)
include hsubject hverb hne hobjects

/-- A statement is tokenized and tagged as it is written. -/
theorem tagSentence_statement :
    tagSentence (statementBody comma subject verb objects ++ ['.']) =
      statementTokens comma (subject.map nameToken) verb base
        (objects.map (List.map nameToken)) := by
  have hwords : tokenize (statementBody comma subject verb objects ++ ['.']) =
      article.text :: (subject ++ verb :: (series Separator.words comma objects ++ [['.']])) := by
    simp only [statementBody, List.append_assoc, List.cons_append]
    rw [tokenize_word (by decide) (by decide) (List.all_eq_true.mp (by decide)), phrase,
      tokenize_phrase (by decide) hsubject.ne_nil hsubject.readable,
      tokenize_word (by decide) hverb.ne_nil fun d hd =>
        isAlphanumeric_of_isAlphanum (hverb.isAlphanum hd),
      tokenize_series comma hne hobjects]
    rfl
  have htokens : (series Separator.words comma objects ++ [['.']]).map (lexicalToken · false) =
      series Separator.tokens comma (objects.map (List.map nameToken)) ++ [markToken '.'] := by
    have hitems : objects.map (List.map (lexicalToken · false)) =
        objects.map (List.map nameToken) :=
      List.map_congr_left fun o ho => List.map_congr_left fun w hw =>
        ((hobjects o ho).words w hw).lexicalToken_eq
    have hstop : lexicalToken ['.'] false = markToken '.' := by decide +kernel
    rw [List.map_append, map_series, hitems, funext Separator.map_words, List.map_singleton, hstop]
  rw [tagSentence, hwords, tag_statement hsubject.ne_nil hsubject.words hverb ?_, htokens]
  · rfl
  · rw [htokens]
    intro t ht
    rcases tag_of_mem_series comma (isRun_of_mem_names hobjects) t ht with htag | htag | htag <;>
      (rw [htag]; decide)

omit hsubject hverb hne hobjects in
theorem nameText_map_nameToken (ws : List (List Char)) :
    nameText (ws.map nameToken) = className ws := by
  rw [nameText, joinWords, List.map_map]
  exact congrArg className (List.map_id ws)

/-- **What a statement says**: its names, and that the first is related to each of the others. -/
theorem sentenceFindings_statement :
    sentenceFindings (statementBody comma subject verb objects ++ ['.']) =
      ((subject :: objects).map className).map Finding.named ++
        (objects.map fun o => ⟨className subject, className o, kindOf base, ""⟩).map
          Finding.related := by
  have hrun : IsRun (subject.map nameToken) := isRun_map_nameToken hsubject.ne_nil
  have hruns := isRun_of_mem_names hobjects
  have hitems : objects.map (List.map nameToken) ≠ [] := List.map_eq_nil_iff.not.mpr hne
  rw [sentenceFindings]
  simp only [tagSentence_statement comma hsubject hverb hne hobjects,
    nameRuns_statement comma hrun hruns, attributeFindings_statement comma hrun hruns hitems,
    methodFindings_statement comma hrun hruns,
    relationshipFindings_statement comma hrun hruns hitems hverb, List.append_nil, List.map_map,
    List.map_cons, Function.comp_def, nameText_map_nameToken]

omit hne in
theorem isQuiet_of_mem_statementBody :
    ∀ c ∈ statementBody comma subject verb objects, isQuiet c = true := by
  have hword {ws : List (List Char)} (hws : IsPlainName ws) :
      ∀ c ∈ phrase ws, isQuiet c = true := by
    refine forall_mem_intercalate (fun c hc => ?_) fun w hw c hc => ?_
    · rw [List.mem_singleton.mp hc]
      decide
    · rw [isQuiet, (hws.words w hw).alphanumeric c hc]
      rfl
  have hseparator : ∀ s : Separator, ∀ c ∈ s.text, isQuiet c = true := by
    intro s
    cases s <;> exact List.all_eq_true.mp (by decide)
  intro c hc
  simp only [statementBody, List.mem_append, List.mem_cons] at hc
  rcases hc with hc | rfl | hc | rfl | hc | rfl | hc
  · exact List.all_eq_true.mp (by decide : "The".toList.all isQuiet = true) c hc
  · rfl
  · exact hword hsubject c hc
  · rfl
  · rw [isQuiet, hverb.isAlphanum hc]
    rfl
  · rfl
  · refine forall_mem_series (P := fun c => isQuiet c = true) hseparator comma
      (fun item hitem => ?_) c hc
    obtain ⟨o, ho, rfl⟩ := List.mem_map.mp hitem
    exact hword (hobjects o ho)

end Statements

/-! ## What is recorded -/

theorem addNew_cons_of_ne {α κ : Type} [DecidableEq κ] {key : α → κ} {first a : α}
    (h : key a ≠ key first) (items : List α) :
    addNew key (first :: items) a = first :: addNew key items a := by
  have hmem : key a ∈ (first :: items).map key ↔ key a ∈ items.map key := by
    rw [List.map_cons, List.mem_cons, or_iff_right h]
  unfold addNew
  split_ifs with hknown hknown' hknown'
  · rfl
  · exact absurd (hmem.mp hknown) hknown'
  · exact absurd (hmem.mpr hknown') hknown
  · rfl

theorem updateIn_id_map_named (name : String) (known : List String) :
    ClassModel.updateIn name id (known.map ClassEntry.named) =
      (addNew id known name).map ClassEntry.named := by
  induction known with
  | nil => rfl
  | cons first known ih =>
    rw [List.map_cons, ClassModel.updateIn]
    by_cases hfirst : first = name
    · have hmem : id name ∈ (first :: known).map id := by
        rw [List.map_id, hfirst]
        exact List.mem_cons_self
      rw [if_pos (by simpa [ClassEntry.named] using hfirst), addNew_of_mem hmem]
      rfl
    · rw [if_neg (by simpa [ClassEntry.named] using hfirst), ih,
        addNew_cons_of_ne (Ne.symm hfirst), List.map_cons]

/-- Names that are recorded over names. -/
theorem foldl_record_named (known names : List String) (relationships : List Relationship) :
    (names.map Finding.named).foldl record ⟨known.map ClassEntry.named, relationships⟩ =
      ⟨(addAll id known names).map ClassEntry.named, relationships⟩ := by
  induction names generalizing known with
  | nil => rfl
  | cons name names ih =>
    rw [List.map_cons, List.foldl_cons, addAll_cons, ← ih, record, ClassModel.ensure,
      ClassModel.update, updateIn_id_map_named]

theorem foldl_record_related (m : ClassModel) (rs : List Relationship) :
    (rs.map Finding.related).foldl record m =
      ⟨m.classes, addAll Relationship.key m.relationships rs⟩ := by
  induction rs generalizing m with
  | nil => rfl
  | cons r rs ih => rw [List.map_cons, List.foldl_cons, ih, record, addRelationship_eq, addAll_cons]

/-- Items that differ in nothing but their keys grow as the keys do. -/
theorem addAll_map {α β κ : Type} [DecidableEq α] [DecidableEq κ] {key : β → κ} {f : α → β}
    (hf : Function.Injective fun a => key (f a)) (items more : List α) :
    addAll key (items.map f) (more.map f) = (addAll id items more).map f :=
  addAll_map_of_key_iff fun _ _ _ _ => hf.eq_iff

/-- **What is drafted from an enumeration.** A sentence says of a name, by a form of a verb of the
vocabularies, something of one or more other names, which are separated by commas and, before the
last of them, by a conjunction, with a comma or without one. The draft has these names for classes,
with nothing in them, and relates the first to each of the others, all of it in the order in which
it is mentioned first. Each relationship is of the kind that the vocabulary gives to the base form
of the verb, and has no label. -/
theorem extract_statement (comma : Bool) {subject : List (List Char)} {verb base : List Char}
    {objects : List (List (List Char))} (hsubject : IsPlainName subject)
    (hverb : IsRelatingVerb verb base) (hne : objects ≠ [])
    (hobjects : ∀ o ∈ objects, IsPlainName o) :
    extract (statement comma subject verb objects) =
      ⟨((subject :: objects).map className).eraseDups.map ClassEntry.named,
        (objects.map className).eraseDups.map fun o =>
          ⟨className subject, o,
            if String.ofList base ∈ inheritanceVerbs then .inheritance else .composition, ""⟩⟩ := by
  have hquiet := isQuiet_of_mem_statementBody comma hsubject hverb hobjects
  have hfirst : ∀ c ∈ (statementBody comma subject verb objects).head?, isBlank c = false := by
    intro c hc
    rw [← Option.some.inj hc]
    decide
  have hinjective : Function.Injective fun o : String =>
      Relationship.key ⟨className subject, o, kindOf base, ""⟩ := fun a b h => by
    simpa [Relationship.key] using h
  rw [statement, extract_sentence hquiet hfirst,
    sentenceFindings_statement comma hsubject hverb hne hobjects, List.foldl_append]
  have hnames : (((subject :: objects).map className).map Finding.named).foldl record .empty =
      ⟨((subject :: objects).map className).eraseDups.map ClassEntry.named, []⟩ := by
    rw [eraseDups_eq_addAll]
    exact foldl_record_named [] _ []
  have hrelated := addAll_map hinjective [] (objects.map className)
  rw [List.map_map, ← eraseDups_eq_addAll] at hrelated
  rw [hnames, foldl_record_related]
  exact congrArg (ClassModel.mk _) hrelated

/-- A name of two words, a name with a digit, and the subject once more. -/
theorem extract_statement_of_order :
    let subject := ["Order".toList]
    let objects := [["Line".toList, "Item".toList], ["Payment2".toList], ["Order".toList]]
    IsPlainName subject ∧ IsRelatingVerb "comprises".toList "comprise".toList ∧
      objects ≠ [] ∧ (∀ o ∈ objects, IsPlainName o) ∧
      statement true subject "comprises".toList objects =
        "The Order comprises Line Item, Payment2, and Order." ∧
      extract "The Order comprises Line Item, Payment2, and Order." =
        ⟨["Order", "Line Item", "Payment2"].map ClassEntry.named,
          ["Line Item", "Payment2", "Order"].map fun o => ⟨"Order", o, .composition, ""⟩⟩ := by
  intro subject objects
  have hsubject : IsPlainName subject := by decide
  have hverb : IsRelatingVerb "comprises".toList "comprise".toList := by decide +kernel
  have hne : objects ≠ [] := by decide
  have hobjects : ∀ o ∈ objects, IsPlainName o := by decide
  have htext : statement true subject "comprises".toList objects =
      "The Order comprises Line Item, Payment2, and Order." := by decide +kernel
  refine ⟨hsubject, hverb, hne, hobjects, htext, ?_⟩
  rw [← htext, extract_statement true hsubject hverb hne hobjects]
  decide +kernel

end Draftsman.Extraction
