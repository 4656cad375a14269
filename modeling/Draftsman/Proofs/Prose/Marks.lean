/-
Which marks the words of a sentence hold.

A mark is cut out of a sentence as a word of its own, and no other word holds it. The small
form of a word and the base form of a verb differ from the word itself by small letters only,
so they hold no mark that it does not (`MarksFrom`). Tagging gives each word these forms and
no others (`inflected_of_mem_tagSentence`), so no token, in any of its forms, holds two
different marks (`oneMark_of_mem_tagSentence`).
-/
import Draftsman.Proofs.Prose.Tokens

set_option autoImplicit false

namespace Draftsman.Prose

open Draftsman.Text

/-! ## Marks -/

/-- A character that is no part of a word, and comes before all small letters. -/
structure StandsAlone (c : Char) : Prop where
  not_isAlphanumeric : isAlphanumeric c = false
  not_isJoiner : isJoiner c = false
  lt_letters : c.toNat < 97

/-- A word with no more than one mark, which it may hold again and again. -/
def OneMark (w : List Char) : Prop :=
  ∀ a ∈ w, ∀ b ∈ w, StandsAlone a → StandsAlone b → a = b

/-- What comes before the small letters in `v` is in `w` too. -/
def MarksFrom (w v : List Char) : Prop := ∀ c ∈ v, c.toNat < 97 → c ∈ w

theorem OneMark.of_marksFrom {w v : List Char} (h : OneMark w) (hv : MarksFrom w v) : OneMark v :=
  fun a ha b hb hmark hmark' =>
    h a (hv a ha hmark.lt_letters) b (hv b hb hmark'.lt_letters) hmark hmark'

theorem marksFrom_of_subset {w v : List Char} (h : v ⊆ w) : MarksFrom w v := fun _ hc _ => h hc

theorem marksFrom_of_forall {w v : List Char} (h : ∀ c ∈ v, 97 ≤ c.toNat) : MarksFrom w v :=
  fun c hc hlt => absurd (h c hc) (Nat.not_le.mpr hlt)

theorem marksFrom_singleton {w : List Char} {c : Char} (hc : 97 ≤ c.toNat) : MarksFrom w [c] :=
  marksFrom_of_forall fun _ hd => List.mem_singleton.mp hd ▸ hc

theorem MarksFrom.append {w u v : List Char} (hu : MarksFrom w u) (hv : MarksFrom w v) :
    MarksFrom w (u ++ v) := by
  intro c hc hlt
  rcases List.mem_append.mp hc with hc | hc
  · exact hu c hc hlt
  · exact hv c hc hlt

theorem MarksFrom.trans {w u v : List Char} (hu : MarksFrom w u) (hv : MarksFrom u v) :
    MarksFrom w v :=
  fun c hc hlt => hu c (hv c hc hlt) hlt

/-- A pattern with two marks is not in a word with one. -/
theorem OneMark.not_infix {w pattern : List Char} (h : OneMark w) {a b : Char} (ha : a ∈ pattern)
    (hb : b ∈ pattern) (hmark : StandsAlone a) (hmark' : StandsAlone b) (hne : a ≠ b) :
    ¬ pattern <:+: w :=
  fun hocc => hne (h a (hocc.subset ha) b (hocc.subset hb) hmark hmark')

/-! ## Words of a sentence -/

theorem StandsAlone.not_mem {c : Char} (hc : StandsAlone c) {w : List Char}
    (hw : ∀ d ∈ w, isAlphanumeric d = true ∨ isJoiner d = true) : c ∉ w := by
  intro hmem
  rcases hw c hmem with h | h
  · exact absurd h (Bool.eq_false_iff.mp hc.not_isAlphanumeric)
  · exact absurd h (Bool.eq_false_iff.mp hc.not_isJoiner)

theorem oneMark_of_mem_finishWord {current w : List Char}
    (hcurrent : ∀ d ∈ current, isAlphanumeric d = true ∨ isJoiner d = true)
    (h : w ∈ finishWord current) : OneMark w := by
  unfold finishWord at h
  split_ifs at h
  · exact absurd h List.not_mem_nil
  · rw [List.mem_singleton.mp h]
    exact fun a ha _ _ hmark _ => absurd (List.mem_reverse.mp ha) (hmark.not_mem hcurrent)

/-- The word that is being collected holds no mark: that is the invariant of the scan. -/
theorem oneMark_of_mem_scanWords {current cs w : List Char}
    (hcurrent : ∀ d ∈ current, isAlphanumeric d = true ∨ isJoiner d = true)
    (h : w ∈ scanWords current cs) : OneMark w := by
  induction cs generalizing current with
  | nil => exact oneMark_of_mem_finishWord hcurrent h
  | cons c cs ih =>
    rw [scanWords] at h
    split_ifs at h with hpart
    · -- the character goes on with the word
      refine ih (fun d hd => ?_) h
      rcases List.mem_cons.mp hd with rfl | hd
      · simp only [Bool.or_eq_true, Bool.and_eq_true] at hpart
        exact hpart.imp_right fun hjoins => hjoins.1.1
      · exact hcurrent d hd
    all_goals
      rw [List.append_assoc] at h
      rcases List.mem_append.mp h with h | h
      · exact oneMark_of_mem_finishWord hcurrent h
      rcases List.mem_append.mp h with h | h
    · -- the character is a blank, and lost
      exact absurd h List.not_mem_nil
    · exact ih (fun _ hd => absurd hd List.not_mem_nil) h
    · -- the character is a word of its own
      rw [List.mem_singleton.mp h]
      intro a ha b hb _ _
      rw [List.mem_singleton.mp ha, List.mem_singleton.mp hb]
    · exact ih (fun _ hd => absurd hd List.not_mem_nil) h

theorem oneMark_of_mem_tokenize {s w : List Char} (h : w ∈ tokenize s) : OneMark w :=
  oneMark_of_mem_scanWords (fun _ hd => absurd hd List.not_mem_nil) h

/-! ## Small forms -/

/-- The images of the run are codes of characters, none of them before the small letters. -/
def leadsToLetters (run : CaseRun) : Bool :=
  let last := run.image + (run.last - run.first)
  97 ≤ run.image && (last < 0xD800 || (0xDFFF < run.image && last < 0x110000))

theorem forall_leadsToLetters : ∀ run ∈ lowercaseRuns, leadsToLetters run = true :=
  List.all_eq_true.mp (by decide +kernel)

theorem le_toNat_ofNat {run : CaseRun} (hrun : leadsToLetters run = true) {code image : Nat}
    (h : run.apply? code = some image) : 97 ≤ (Char.ofNat image).toNat := by
  have hbounds := CaseRun.image_bounds h
  simp only [leadsToLetters, Bool.and_eq_true, Bool.or_eq_true, decide_eq_true_eq] at hrun
  have hvalid : image.isValidChar := by
    simp only [Nat.isValidChar]
    omega
  rw [Char.ofNat, dif_pos hvalid]
  exact hrun.1.trans hbounds.1

theorem marksFrom_lowerChar (c : Char) : MarksFrom [c] (lowerChar c) := by
  unfold lowerChar
  split_ifs
  · rcases toLower_cases c with hsame | hletter
    · rw [hsame]
      exact marksFrom_of_subset (List.Subset.refl _)
    · exact marksFrom_singleton hletter.1
  · -- a small i and the dot above it
    exact .append (marksFrom_singleton (by decide)) (marksFrom_singleton (by decide))
  · unfold applyRuns
    split
    · rename_i code hcode
      obtain ⟨run, hrun, happly⟩ := List.exists_of_findSome?_eq_some hcode
      exact marksFrom_singleton (le_toNat_ofNat (forall_leadsToLetters run hrun) happly)
    · exact marksFrom_of_subset (List.Subset.refl _)

/-- **The small form of a word holds no mark that the word does not.** -/
theorem marksFrom_lowerChars (w : List Char) : MarksFrom w (lowerChars w) := by
  have hafter (before w : List Char) : MarksFrom w (lowerAfter before w) := by
    induction w generalizing before with
    | nil => exact marksFrom_of_subset (List.Subset.refl _)
    | cons c w ih =>
      rw [lowerAfter]
      refine MarksFrom.append ?_ ((marksFrom_of_subset (List.subset_cons_self c w)).trans (ih _))
      split_ifs
      -- a capital sigma, which closes the word or does not
      · exact marksFrom_singleton (by decide)
      · exact marksFrom_singleton (by decide)
      · refine (marksFrom_of_subset ?_).trans (marksFrom_lowerChar c)
        exact List.cons_subset_cons c (List.nil_subset w)
  exact hafter [] w

/-! ## Base forms

Every rule takes an ending off a word and puts a letter or nothing in its place. -/

section Rules

variable {w b : List Char}

theorem marksFrom_concat {s : List Char} (hs : s ⊆ w) {c : Char} (hc : 97 ≤ c.toNat) :
    MarksFrom w (s ++ [c]) :=
  (marksFrom_of_subset hs).append (marksFrom_singleton hc)

theorem marksFrom_irregularBase? (h : irregularBase? w = some b) : MarksFrom w b := by
  have hlexicon : ∀ entry ∈ Lexicon.irregularVerbs,
      entry.2.toList.all (fun c => decide (97 ≤ c.toNat)) = true := by decide
  obtain ⟨base, hbase, rfl⟩ := Option.map_eq_some_iff.mp h
  obtain ⟨before, after, hmem, -⟩ := List.lookup_eq_some_iff.mp hbase
  have hletters := List.all_eq_true.mp (hlexicon (String.ofList w, base) (by simp [hmem]))
  exact marksFrom_of_forall fun c hc => of_decide_eq_true (hletters c hc)

theorem marksFrom_restoreStem (w : List Char) : MarksFrom w (restoreStem w) := by
  have hself : MarksFrom w w := marksFrom_of_subset (List.Subset.refl w)
  unfold restoreStem
  split_ifs
  · exact hself
  · exact marksFrom_concat (List.Subset.refl w) (by decide)
  · split
    · split_ifs
      · exact marksFrom_of_subset (List.dropLast_subset w)
      · exact hself
    · exact hself

/-- A rule that changes the stem in front of an ending. -/
theorem marksFrom_of_stem? {ending : String} {rule : List Char → Option (List Char)}
    (hrule : ∀ s b, rule s = some b → MarksFrom s b) (h : (stem? w ending).bind rule = some b) :
    MarksFrom w b := by
  obtain ⟨s, hs, h⟩ := Option.bind_eq_some_iff.mp h
  exact (marksFrom_of_subset (subset_of_stem? hs)).trans (hrule s b h)

theorem marksFrom_baseOfIes? (h : baseOfIes? w = some b) : MarksFrom w b := by
  refine marksFrom_of_stem? (fun s b hb => ?_) h
  split_ifs at hb
  exact Option.some.inj hb ▸ marksFrom_concat (List.Subset.refl s) (by decide)

theorem marksFrom_baseOfHissing? (h : baseOfHissing? w = some b) : MarksFrom w b := by
  refine marksFrom_of_stem? (fun s b hb => ?_) h
  split_ifs at hb
  exact marksFrom_of_subset (Option.some.inj hb ▸ List.Subset.refl s)

theorem marksFrom_baseOfS? (h : baseOfS? w = some b) : MarksFrom w b := by
  refine marksFrom_of_stem? (fun s b hb => ?_) h
  split_ifs at hb
  exact marksFrom_of_subset (Option.some.inj hb ▸ List.Subset.refl s)

theorem marksFrom_baseOfIed? (h : baseOfIed? w = some b) : MarksFrom w b := by
  obtain ⟨s, hs, rfl⟩ := Option.map_eq_some_iff.mp h
  exact marksFrom_concat (subset_of_stem? hs) (by decide)

theorem marksFrom_baseOfEnding? {ending : String} (h : baseOfEnding? ending w = some b) :
    MarksFrom w b := by
  refine marksFrom_of_stem? (fun s b hb => ?_) h
  split_ifs at hb
  exact Option.some.inj hb ▸ marksFrom_restoreStem s

end Rules

/-- **The base form of a verb holds no mark that the word does not**, whichever rule gives it. -/
theorem marksFrom_lemmatizeVerb (w : List Char) : MarksFrom w (lemmatizeVerb w) := by
  unfold lemmatizeVerb
  cases h : (irregularBase? w <|> baseOfIes? w <|> baseOfHissing? w <|> baseOfS? w
    <|> baseOfIed? w <|> baseOfEnding? "ed" w <|> baseOfEnding? "ing" w) with
  | none => exact marksFrom_of_subset (List.Subset.refl w)
  | some b =>
    -- the rules in the order in which they are tried
    simp only [Option.orElse_eq_orElse, Option.orElse_eq_or, Option.or_eq_some_iff] at h
    rcases h with h | ⟨-, h | ⟨-, h | ⟨-, h | ⟨-, h | ⟨-, h | ⟨-, h⟩⟩⟩⟩⟩⟩
    · exact marksFrom_irregularBase? h
    · exact marksFrom_baseOfIes? h
    · exact marksFrom_baseOfHissing? h
    · exact marksFrom_baseOfS? h
    · exact marksFrom_baseOfIed? h
    · exact marksFrom_baseOfEnding? h
    · exact marksFrom_baseOfEnding? h

theorem marksFrom_verbBase? {w b : List Char} (h : verbBase? w = some b) : MarksFrom w b := by
  unfold verbBase? at h
  split_ifs at h
  · exact marksFrom_of_subset (Option.some.inj h ▸ List.Subset.refl w)
  · simp only [Option.orElse_eq_orElse, Option.orElse_eq_or, Option.or_eq_some_iff] at h
    rcases h with h | ⟨-, h⟩
    · exact marksFrom_irregularBase? h
    · split_ifs at h
      exact Option.some.inj h ▸ marksFrom_lemmatizeVerb w

/-! ## Tokens -/

/-- The forms of a token are those of its word: the small form, and for a base form that
itself, the base form of a verb, or what the rules for verbs make of any word. -/
structure Token.Inflected (t : Token) : Prop where
  lower : t.lower = lowerChars t.text
  base : t.base = t.lower ∨ verbBase? t.lower = some t.base ∨ t.base = lemmatizeVerb t.lower

theorem inflected_lexicalToken (word : List Char) (opening : Bool) :
    (lexicalToken word opening).Inflected := by
  refine ⟨rfl, ?_⟩
  unfold lexicalToken
  dsimp only
  split_ifs
  · cases hbase : verbBase? (lowerChars word) with
    | none => exact .inl rfl
    | some b => exact .inr (.inl rfl)
  · exact .inl rfl

theorem text_correct (ctx : LeftContext) (next : Option Token) (t : Token) :
    (correct ctx next t).text = t.text := by
  unfold correct
  split
  · split_ifs <;> rfl
  · dsimp only
    split_ifs <;> rfl
  · split_ifs
    · split <;> rfl
    · rfl
  · rfl

theorem Token.Inflected.correct {t : Token} (h : t.Inflected) (ctx : LeftContext)
    (next : Option Token) : (correct ctx next t).Inflected := by
  unfold Prose.correct
  split
  · split_ifs
    · exact ⟨h.lower, .inl rfl⟩
    · exact h
  · dsimp only
    split_ifs
    · exact ⟨h.lower, .inr (.inr rfl)⟩
    · exact h
  · split_ifs
    · split
      · rename_i b hbase
        exact ⟨h.lower, .inr (.inl hbase)⟩
      · exact h
    · exact h
  · exact h

theorem map_text_lexicalTokens (words : List (List Char)) :
    (lexicalTokens words).map Token.text = words := by
  cases words with
  | nil => rfl
  | cons word rest =>
    rw [lexicalTokens, List.map_cons, List.map_map]
    exact congrArg (word :: ·) (List.map_id rest)

/-- **Tagging gives a word its own forms and no others.** -/
theorem inflected_of_mem_tagSentence {s : List Char} {t : Token} (h : t ∈ tagSentence s) :
    t.Inflected ∧ t.text ∈ tokenize s := by
  have htokens : ∀ u ∈ tagSentence s, u.Inflected ∧ u.text ∈ tokenize s :=
    forall_mem_tag (fun w hw opening => ⟨inflected_lexicalToken w opening, hw⟩)
      fun ctx next u hu => ⟨hu.1.correct ctx next, (text_correct ctx next u).symm ▸ hu.2⟩
  exact htokens t h

/-- **No token holds two different marks**, neither in its text nor in its base form. -/
theorem oneMark_of_mem_tagSentence {s : List Char} {t : Token} (h : t ∈ tagSentence s) :
    OneMark t.text ∧ OneMark t.base := by
  obtain ⟨⟨hlower, hbase⟩, htext⟩ := inflected_of_mem_tagSentence h
  have hword := oneMark_of_mem_tokenize htext
  have hsmall : OneMark t.lower := hlower ▸ hword.of_marksFrom (marksFrom_lowerChars t.text)
  refine ⟨hword, ?_⟩
  rcases hbase with hbase | hbase | hbase
  · exact hbase ▸ hsmall
  · exact hsmall.of_marksFrom (marksFrom_verbBase? hbase)
  · exact hbase ▸ hsmall.of_marksFrom (marksFrom_lemmatizeVerb t.lower)

end Draftsman.Prose
