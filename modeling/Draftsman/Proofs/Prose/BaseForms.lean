/-
Whether a base form is its own base form.

A rule for endings takes one ending off and looks no further, so what it leaves of a word that the
lexicon does not know may end like an inflected form itself: "feeds" comes from "feed", and "feed"
would come from "fe". Every rule changes the word it applies to, the irregular forms by the lexicon
and all others because a stem is shorter than the word (`length_lt_of_regularBase?`). So a word is
its own base form exactly if no rule applies (`lemmatizeVerb_eq_self_iff`), and of the six rules for
endings three decide that alone: a word in `ies` or in `es` behind a hissing sound is one in `s`,
and a word in `ied` is one in `ed` (`isSome_regularBase?`). The base forms of the lexicon have no
such ending. The tagger writes into every verb the base form of its small form, wherever the verb
stands and whichever pass finds it (`base_of_mem_tag`).
-/
import Draftsman.Proofs.Prose.Tokens

set_option autoImplicit false

namespace Draftsman.Prose

open Draftsman.Text

/-! ## Stems and endings -/

theorem eq_append_of_stem? {w stem : List Char} {ending : String}
    (h : stem? w ending = some stem) : w = stem ++ ending.toList := by
  unfold stem? at h
  split_ifs at h with hending
  obtain ⟨front, rfl⟩ := List.isSuffixOf_iff_suffix.mp hending
  rw [← Option.some.inj h, List.length_append, Nat.add_sub_cancel, List.take_left]

theorem stem?_append (stem : List Char) (ending : String) :
    stem? (stem ++ ending.toList) ending = some stem := by
  have hending : hasEnding (stem ++ ending.toList) ending = true :=
    List.isSuffixOf_iff_suffix.mpr ⟨stem, rfl⟩
  rw [stem?, if_pos hending, List.length_append, Nat.add_sub_cancel, List.take_left]

theorem byteLength_concat (w : List Char) (c : Char) :
    byteLength (w ++ [c]) = byteLength w + c.utf8Size := by
  rw [byteLength, byteLength, List.map_append, List.foldl_append]
  rfl

theorem byteLength_pos {w : List Char} (h : w ≠ []) : 0 < byteLength w := by
  obtain ⟨front, c, rfl⟩ := List.eq_nil_or_concat w |>.resolve_left h
  rw [List.concat_eq_append, byteLength_concat]
  exact Nat.lt_add_left _ c.utf8Size_pos

/-- One more letter makes more than one byte of any stem. -/
theorem one_lt_byteLength_concat {w : List Char} (h : w ≠ []) (c : Char) :
    1 < byteLength (w ++ [c]) := by
  have hw := byteLength_pos h
  have hc := c.utf8Size_pos
  rw [byteLength_concat]
  omega

/-! ## What a rule does to a word -/

/-- The base form that a rule for regular endings gives. -/
def regularBase? (w : List Char) : Option (List Char) :=
  baseOfIes? w <|> baseOfHissing? w <|> baseOfS? w <|> baseOfIed? w <|> baseOfEnding? "ed" w
    <|> baseOfEnding? "ing" w

theorem lemmatizeVerb_eq (w : List Char) :
    lemmatizeVerb w = (irregularBase? w <|> regularBase? w).getD w := rfl

theorem length_restoreStem_le (stem : List Char) :
    (restoreStem stem).length ≤ stem.length + 1 := by
  unfold restoreStem
  split_ifs
  · exact Nat.le_succ _
  · exact (List.length_append ..).le
  · split
    · split_ifs
      · rw [List.length_dropLast]
        omega
      · exact Nat.le_succ _
    · exact Nat.le_succ _

/-- A rule that gives less back than the stem and the ending shortens the word. -/
theorem length_lt_of_rule {w base : List Char} {ending : String}
    {rule : List Char → Option (List Char)}
    (hrule : ∀ stem b, rule stem = some b → b.length < stem.length + ending.length)
    (h : (stem? w ending).bind rule = some base) : base.length < w.length := by
  obtain ⟨stem, hstem, hbase⟩ := Option.bind_eq_some_iff.mp h
  rw [eq_append_of_stem? hstem, List.length_append]
  exact hrule stem base hbase

/-- **A rule for endings shortens the word.** -/
theorem length_lt_of_regularBase? {w base : List Char} (h : regularBase? w = some base) :
    base.length < w.length := by
  have hguarded {p : Prop} [Decidable p] {b base : List Char} {n : Nat} (hb : b.length < n)
      (h : (if p then some b else none) = some base) : base.length < n := by
    split_ifs at h
    exact Option.some.inj h ▸ hb
  have hrestored (stem : List Char) {n : Nat} (hn : 1 < n) :
      (restoreStem stem).length < stem.length + n :=
    (length_restoreStem_le stem).trans_lt (Nat.add_lt_add_left hn _)
  have hconcat (stem : List Char) {n : Nat} (hn : 1 < n) :
      (stem ++ ['y']).length < stem.length + n := by
    rw [List.length_append]
    exact Nat.add_lt_add_left hn _
  have hstem (stem : List Char) {n : Nat} (hn : 0 < n) : stem.length < stem.length + n :=
    Nat.lt_add_of_pos_right hn
  simp only [regularBase?, Option.orElse_eq_orElse, Option.orElse_eq_or, Option.or_eq_some_iff] at h
  rcases h with h | ⟨-, h | ⟨-, h | ⟨-, h | ⟨-, h | ⟨-, h⟩⟩⟩⟩⟩
  · exact length_lt_of_rule (fun stem b => hguarded (hconcat stem (by decide))) h
  · exact length_lt_of_rule (fun stem b => hguarded (hstem stem (by decide))) h
  · exact length_lt_of_rule (fun stem b => hguarded (hstem stem (by decide))) h
  · obtain ⟨stem, hies, rfl⟩ := Option.map_eq_some_iff.mp h
    have hlength : (stem ++ "ied".toList).length = stem.length + 3 := List.length_append
    rw [eq_append_of_stem? hies, hlength]
    exact hconcat stem (by decide)
  · exact length_lt_of_rule (fun stem b => hguarded (hrestored stem (by decide))) h
  · exact length_lt_of_rule (fun stem b => hguarded (hrestored stem (by decide))) h

/-- The lexicon lists no verb as an irregular form of itself. -/
theorem ne_of_irregularBase? {w base : List Char} (h : irregularBase? w = some base) :
    base ≠ w := by
  have hlexicon : ∀ entry ∈ Lexicon.irregularVerbs, entry.2 ≠ entry.1 := by decide
  obtain ⟨verb, hverb, rfl⟩ := Option.map_eq_some_iff.mp h
  obtain ⟨before, after, hmem, -⟩ := List.lookup_eq_some_iff.mp hverb
  intro hsame
  refine hlexicon (String.ofList w, verb) (by simp [hmem]) ?_
  rw [← hsame, String.ofList_toList]

/-- **A word is its own base form exactly if no rule applies to it.** -/
theorem lemmatizeVerb_eq_self_iff_rules {w : List Char} :
    lemmatizeVerb w = w ↔ irregularBase? w = none ∧ regularBase? w = none := by
  rw [lemmatizeVerb_eq]
  cases hirregular : irregularBase? w with
  | some base =>
    exact iff_of_false (ne_of_irregularBase? hirregular) fun h => absurd h.1 (by simp)
  | none =>
    cases hregular : regularBase? w with
    | some base =>
      refine iff_of_false (fun hsame => ?_) fun h => absurd h.2 (by simp)
      have hbase : base = w := hsame
      exact absurd (length_lt_of_regularBase? hregular) (by rw [hbase]; exact Nat.lt_irrefl _)
    | none => exact iff_of_true rfl ⟨rfl, rfl⟩

/-! ## Words that look inflected -/

/-- Ends like the inflected form of a regular verb: in a single `s`, in `ed` or in `ing`, with more
than one byte in front of it. The word "ied" does, too. -/
def hasRegularEnding (w : List Char) : Bool :=
  (stem? w "s").any (fun s => !hasEnding s "s" && 1 < byteLength s)
    || (stem? w "ed").any (fun s => 1 < byteLength s)
    || (stem? w "ing").any (fun s => 1 < byteLength s)
    || w == "ied".toList

/-- Looks like an inflected form: listed as an irregular one, or by its ending. -/
def isInflected (w : List Char) : Bool := (irregularBase? w).isSome || hasRegularEnding w

theorem isSome_bind_guard {p : List Char → Bool} {f : List Char → List Char}
    (stem : Option (List Char)) :
    (stem.bind fun s => if p s then some (f s) else none).isSome = stem.any p := by
  cases stem with
  | none => rfl
  | some s =>
    show (if p s then some (f s) else none).isSome = p s
    split_ifs with hp
    · exact hp.symm
    · exact (Bool.eq_false_iff.mpr hp).symm

theorem isSome_baseOfS? (w : List Char) :
    (baseOfS? w).isSome = (stem? w "s").any fun s => !hasEnding s "s" && 1 < byteLength s :=
  isSome_bind_guard (f := id) _

theorem isSome_baseOfEnding? (ending : String) (w : List Char) :
    (baseOfEnding? ending w).isSome = (stem? w ending).any fun s => 1 < byteLength s := by
  rw [← isSome_bind_guard (f := restoreStem)]
  simp only [baseOfEnding?, decide_eq_true_eq]

/-- An ending in `es` behind a stem is an ending in `s`, too. -/
theorem isSome_baseOfS?_of_es {stem : List Char} (h : stem ≠ []) :
    (baseOfS? (stem ++ "es".toList)).isSome = true := by
  have hlast : hasEnding (stem ++ ['e']) "s" = false := by
    refine Bool.eq_false_iff.mpr fun hsuffix => ?_
    obtain ⟨front, hfront⟩ := List.isSuffixOf_iff_suffix.mp hsuffix
    exact absurd (List.append_inj' hfront rfl).2 (by decide)
  rw [show stem ++ "es".toList = (stem ++ ['e']) ++ "s".toList by simp, isSome_baseOfS?,
    stem?_append, Option.any_some, hlast, Bool.not_false, Bool.true_and]
  exact decide_eq_true (one_lt_byteLength_concat h 'e')

theorem isSome_baseOfS?_of_baseOfIes? {w : List Char} (h : (baseOfIes? w).isSome = true) :
    (baseOfS? w).isSome = true := by
  obtain ⟨base, hbase⟩ := Option.isSome_iff_exists.mp h
  obtain ⟨stem, hstem, -⟩ := Option.bind_eq_some_iff.mp hbase
  rw [eq_append_of_stem? hstem, show stem ++ "ies".toList = (stem ++ ['i']) ++ "es".toList by simp]
  exact isSome_baseOfS?_of_es (by simp)

theorem isSome_baseOfS?_of_baseOfHissing? {w : List Char} (h : (baseOfHissing? w).isSome = true) :
    (baseOfS? w).isSome = true := by
  obtain ⟨base, hbase⟩ := Option.isSome_iff_exists.mp h
  obtain ⟨stem, hstem, hhiss⟩ := Option.bind_eq_some_iff.mp hbase
  rw [eq_append_of_stem? hstem]
  split_ifs at hhiss with hsound
  -- the sound in front of the ending is part of the stem
  obtain ⟨sound, hmem, hsound⟩ := List.any_eq_true.mp hsound
  have hnonempty : ∀ e ∈ ["ss", "sh", "ch", "x", "z"], e.toList ≠ [] := by decide
  exact isSome_baseOfS?_of_es (ne_nil_of_hasEnding hsound (hnonempty sound hmem))

/-- An ending in `ied` is one in `ed`, unless it is all there is. -/
theorem isSome_baseOfIed? (w : List Char) (h : (baseOfIed? w).isSome = true) :
    (baseOfEnding? "ed" w).isSome = true ∨ w = "ied".toList := by
  obtain ⟨base, hbase⟩ := Option.isSome_iff_exists.mp h
  obtain ⟨stem, hstem, -⟩ := Option.map_eq_some_iff.mp hbase
  rw [eq_append_of_stem? hstem]
  by_cases hempty : stem = []
  · exact .inr (by rw [hempty]; rfl)
  · rw [show stem ++ "ied".toList = (stem ++ ['i']) ++ "ed".toList by simp, isSome_baseOfEnding?,
      stem?_append]
    exact .inl (decide_eq_true (one_lt_byteLength_concat hempty 'i'))

/-- **Three endings decide whether any rule for endings applies.** -/
theorem isSome_regularBase? (w : List Char) :
    (regularBase? w).isSome = hasRegularEnding w := by
  have hparts : (regularBase? w).isSome = ((baseOfIes? w).isSome || ((baseOfHissing? w).isSome ||
      ((baseOfS? w).isSome || ((baseOfIed? w).isSome || ((baseOfEnding? "ed" w).isSome ||
        (baseOfEnding? "ing" w).isSome))))) := by
    simp only [regularBase?, Option.orElse_eq_orElse, Option.orElse_eq_or, Option.isSome_or]
  rw [hparts, hasRegularEnding, ← isSome_baseOfS?, ← isSome_baseOfEnding?, ← isSome_baseOfEnding?,
    Bool.eq_iff_iff]
  simp only [Bool.or_eq_true, beq_iff_eq]
  constructor
  · rintro (h | h | h | h | h | h)
    · exact .inl (.inl (.inl (isSome_baseOfS?_of_baseOfIes? h)))
    · exact .inl (.inl (.inl (isSome_baseOfS?_of_baseOfHissing? h)))
    · exact .inl (.inl (.inl h))
    · rcases isSome_baseOfIed? w h with h | h
      · exact .inl (.inl (.inr h))
      · exact .inr h
    · exact .inl (.inl (.inr h))
    · exact .inl (.inr h)
  · rintro (((h | h) | h) | rfl)
    · exact .inr (.inr (.inl h))
    · exact .inr (.inr (.inr (.inr (.inl h))))
    · exact .inr (.inr (.inr (.inr (.inr h))))
    · exact .inr (.inr (.inr (.inl (by decide))))

/-- **A word is its own base form exactly if it does not look inflected.** -/
theorem lemmatizeVerb_eq_self_iff {w : List Char} :
    lemmatizeVerb w = w ↔ isInflected w = false := by
  rw [lemmatizeVerb_eq_self_iff_rules, isInflected, Bool.or_eq_false_iff, ← isSome_regularBase?,
    Option.isSome_eq_false_iff, Option.isSome_eq_false_iff, Option.isNone_iff_eq_none,
    Option.isNone_iff_eq_none]

/-! ## Known verbs -/

/-- The base forms of the lexicon do not look inflected. -/
theorem lemmatizeVerb_of_isBaseVerb {w : List Char} (h : isBaseVerb w = true) :
    lemmatizeVerb w = w := by
  have hlexicon : ∀ verb ∈ Lexicon.verbs, isInflected verb.toList = false := by decide +kernel
  have hw := hlexicon (String.ofList w) (List.contains_iff_mem.mp h)
  rw [String.toList_ofList] at hw
  exact lemmatizeVerb_eq_self_iff.mpr hw

/-- The base form of a known verb is the one that the rules give. -/
theorem eq_lemmatizeVerb_of_verbBase? {w base : List Char} (h : verbBase? w = some base) :
    base = lemmatizeVerb w := by
  unfold verbBase? at h
  split_ifs at h with hverb
  · rw [lemmatizeVerb_of_isBaseVerb hverb]
    exact (Option.some.inj h).symm
  · cases hirregular : irregularBase? w with
    | some irregular =>
      rw [hirregular] at h
      rw [lemmatizeVerb_eq, hirregular]
      exact (Option.some.inj h).symm
    | none =>
      rw [hirregular] at h
      replace h : (if lemmatizeVerb w ≠ w && isBaseVerb (lemmatizeVerb w) then
        some (lemmatizeVerb w) else none) = some base := h
      split_ifs at h
      exact (Option.some.inj h).symm

/-! ## Verbs of a sentence -/

/-- A verb with the base form of its small form. -/
def Token.IsLemmatized (t : Token) : Prop := t.tag = .verb → t.base = lemmatizeVerb t.lower

theorem isSome_irregularBase?_of_closedClass? {lower : List Char}
    (h : closedClass? lower = some .verb) : (irregularBase? lower).isSome = true := by
  unfold closedClass? at h
  dsimp only at h
  split_ifs at h with _ _ _ _ _ _ hirregular
  all_goals first | exact hirregular | cases h

theorem isSome_verbBase?_of_irregularBase? {w : List Char}
    (h : (irregularBase? w).isSome = true) : (verbBase? w).isSome = true := by
  obtain ⟨base, hbase⟩ := Option.isSome_iff_exists.mp h
  unfold verbBase?
  split_ifs
  · rfl
  · rw [hbase]
    rfl

theorem isSome_verbBase?_of_lexicalTag {word lower : List Char} {opening : Bool}
    (h : lexicalTag word lower opening = .verb) : (verbBase? lower).isSome = true := by
  unfold lexicalTag at h
  dsimp only at h
  cases hclosed : closedClass? lower with
  | some tag =>
    rw [hclosed] at h
    dsimp only at h
    split_ifs at h
    exact isSome_verbBase?_of_irregularBase? (isSome_irregularBase?_of_closedClass? (h ▸ hclosed))
  | none =>
    rw [hclosed] at h
    dsimp only at h
    split_ifs at h
    rename_i hverb
    exact (Bool.and_eq_true_iff.mp hverb).1

theorem isLemmatized_lexicalToken (word : List Char) (opening : Bool) :
    (lexicalToken word opening).IsLemmatized := by
  intro hverb
  have htag : lexicalTag word (lowerChars word) opening = .verb := hverb
  obtain ⟨base, hbase⟩ := Option.isSome_iff_exists.mp (isSome_verbBase?_of_lexicalTag htag)
  show (if lexicalTag word (lowerChars word) opening = .verb then
    (verbBase? (lowerChars word)).getD (lowerChars word) else lowerChars word) =
      lemmatizeVerb (lowerChars word)
  rw [if_pos htag, hbase]
  exact eq_lemmatizeVerb_of_verbBase? hbase

/-- A correction that makes a verb of a word gives it that base form. -/
theorem Token.IsLemmatized.correct {t : Token} (h : t.IsLemmatized) (ctx : LeftContext)
    (next : Option Token) : (correct ctx next t).IsLemmatized := by
  unfold Prose.correct
  split
  · split_ifs
    · exact fun hverb => nomatch (show Tag.noun = .verb from hverb)
    · exact h
  · dsimp only
    split_ifs
    · exact fun _ => rfl
    · exact h
  · split_ifs
    · split
      · rename_i base hbase
        exact fun _ => eq_lemmatizeVerb_of_verbBase? hbase
      · exact h
    · exact h
  · exact h

/-- **Every verb of a sentence has the base form of its small form.** -/
theorem base_of_mem_tag {words : List (List Char)} {t : Token} (h : t ∈ tag words)
    (hverb : t.tag = .verb) : t.base = lemmatizeVerb t.lower :=
  forall_mem_tag (fun w _ => isLemmatized_lexicalToken w)
    (fun ctx next _ ht => ht.correct ctx next) t h hverb

/-! ## Base forms of base forms -/

/-- **A base form is stable exactly if it does not look inflected**, and the base forms of the
lexicon are their own. Every verb of a sentence has the base form that the rules give, so a verb
that stands in its base form, as after a modal, keeps that form exactly if it does not look
inflected. -/
theorem lemmatizeVerb_stable_iff :
    (∀ w, lemmatizeVerb (lemmatizeVerb w) = lemmatizeVerb w ↔
      isInflected (lemmatizeVerb w) = false) ∧
      (∀ w, isBaseVerb w = true → lemmatizeVerb w = w) ∧
      ∀ words, ∀ t ∈ tag words, t.tag = .verb →
        t.base = lemmatizeVerb t.lower ∧ (t.base = t.lower ↔ isInflected t.lower = false) := by
  refine ⟨fun w => lemmatizeVerb_eq_self_iff, fun w hw => lemmatizeVerb_of_isBaseVerb hw,
    fun words t ht hverb => ?_⟩
  have hbase := base_of_mem_tag ht hverb
  exact ⟨hbase, hbase ▸ lemmatizeVerb_eq_self_iff⟩

/-- A stem that the lexicon does not know may lose a second ending: "feeds" comes from "feed", and
"feed" from "fe", also where it stands behind a modal. -/
theorem feeds_loses_two_endings :
    lemmatizeVerb (lemmatizeVerb "feeds".toList) ≠ lemmatizeVerb "feeds".toList ∧
      lemmatizeVerb "feeds".toList = "feed".toList ∧ lemmatizeVerb "feed".toList = "fe".toList ∧
      (tagSentence "A Keeper can feed Animals".toList)[3]? =
        some ⟨"feed".toList, "feed".toList, "fe".toList, .verb⟩ := by
  decide +kernel

end Draftsman.Prose
