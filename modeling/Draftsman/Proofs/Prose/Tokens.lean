/-
What every token of a sentence is like.

A word that is cut out of a sentence is solid: it is not empty and holds no blank. Its
small form is, and so is its base form, whichever rule for endings gives it. The second
pass of tagging changes the class and the base form of a token and nothing else, and makes
no proper nouns, so a proper noun begins with a capital wherever it stands
(`wellFormed_of_mem_tagSentence`).
-/
import Draftsman.Prose.Tagging
import Draftsman.Proofs.Text.Solid
import Mathlib.Tactic.SplitIfs

set_option autoImplicit false

namespace Draftsman.Prose

open Draftsman.Text

/-! ## Words of a sentence -/

theorem not_isBlank_of_isJoiner {c : Char} (h : isJoiner c = true) : isBlank c = false := by
  simp only [isJoiner, Bool.or_eq_true, beq_iff_eq] at h
  rcases h with (rfl | rfl) | rfl <;> decide

theorem solid_of_mem_finishWord {current w : List Char} (hcurrent : ∀ c ∈ current, isBlank c = false)
    (h : w ∈ finishWord current) : Solid w := by
  unfold finishWord at h
  split_ifs at h with hempty
  · exact absurd h List.not_mem_nil
  · rw [List.mem_singleton.mp h]
    refine ⟨fun hnil => hempty ?_, fun c hc => hcurrent c (List.mem_reverse.mp hc)⟩
    rw [List.reverse_eq_nil_iff.mp hnil, List.isEmpty_nil]

/-- The word that is being collected holds no blank: that is the invariant of the scan. -/
theorem solid_of_mem_scanWords {current cs w : List Char}
    (hcurrent : ∀ c ∈ current, isBlank c = false) (h : w ∈ scanWords current cs) : Solid w := by
  induction cs generalizing current with
  | nil => exact solid_of_mem_finishWord hcurrent h
  | cons c cs ih =>
    rw [scanWords] at h
    split_ifs at h with hpart hblank
    · -- the character goes on with the word
      have hc : isBlank c = false := by
        simp only [Bool.or_eq_true, Bool.and_eq_true] at hpart
        rcases hpart with hpart | ⟨⟨hpart, -⟩, -⟩
        · exact not_isBlank_of_isAlphanumeric hpart
        · exact not_isBlank_of_isJoiner hpart
      refine ih (fun d hd => ?_) h
      rcases List.mem_cons.mp hd with rfl | hd
      · exact hc
      · exact hcurrent d hd
    · -- the character is a blank, and lost
      rw [List.append_nil] at h
      rcases List.mem_append.mp h with h | h
      · exact solid_of_mem_finishWord hcurrent h
      · exact ih (fun _ hd => absurd hd List.not_mem_nil) h
    · -- the character is a word of its own
      rw [List.append_assoc] at h
      rcases List.mem_append.mp h with h | h
      · exact solid_of_mem_finishWord hcurrent h
      · rcases List.mem_append.mp h with h | h
        · rw [List.mem_singleton.mp h]
          exact solid_singleton (Bool.eq_false_iff.mpr hblank)
        · exact ih (fun _ hd => absurd hd List.not_mem_nil) h

/-- **The words of a sentence are solid.** -/
theorem solid_of_mem_tokenize {s w : List Char} (h : w ∈ tokenize s) : Solid w :=
  solid_of_mem_scanWords (fun _ hd => absurd hd List.not_mem_nil) h

/-! ## Base forms

Every rule takes an ending off a word and puts a letter or nothing in its place, and no
rule takes the whole word. -/

instance (w : List Char) : Decidable (Solid w) :=
  decidable_of_iff (w ≠ [] ∧ w.all (fun c => !isBlank c) = true)
    ⟨fun h => ⟨h.1, by simpa using h.2⟩, fun h => ⟨h.ne_nil, by simpa using h.not_isBlank⟩⟩

theorem subset_of_stem? {w s : List Char} {ending : String} (h : stem? w ending = some s) :
    s ⊆ w := by
  unfold stem? at h
  split_ifs at h
  rw [← Option.some.inj h]
  exact List.take_subset _ w

theorem ne_nil_of_byteLength {w : List Char} {n : Nat} (h : n < byteLength w) : w ≠ [] := by
  rintro rfl
  exact absurd h (Nat.not_lt_zero n)

theorem ne_nil_of_hasEnding {w : List Char} {ending : String} (h : hasEnding w ending = true)
    (hne : ending.toList ≠ []) : w ≠ [] := by
  rintro rfl
  exact hne (List.suffix_nil.mp (List.isSuffixOf_iff_suffix.mp h))

theorem ne_nil_of_isBaseVerb {w : List Char} (h : isBaseVerb w = true) : w ≠ [] := by
  rintro rfl
  exact absurd h (by decide)

theorem solid_of_irregularBase? {w b : List Char} (h : irregularBase? w = some b) : Solid b := by
  have hlexicon : ∀ entry ∈ Lexicon.irregularVerbs, Solid entry.2.toList := by decide
  obtain ⟨base, hbase, rfl⟩ := Option.map_eq_some_iff.mp h
  obtain ⟨before, after, hmem, -⟩ := List.lookup_eq_some_iff.mp hbase
  exact hlexicon (String.ofList w, base) (by simp [hmem])

section Rules

variable {w b : List Char} (hw : Solid w)
include hw

theorem solid_restoreStem : Solid (restoreStem w) := by
  unfold restoreStem
  split_ifs
  · exact hw
  · exact Solid.append_singleton hw.not_isBlank rfl
  · split
    · split_ifs with hdoubled
      · -- what is left without the doubled letter is a verb, and no verb is empty
        simp only [Bool.and_eq_true] at hdoubled
        exact hw.of_subset (ne_nil_of_isBaseVerb hdoubled.2) (List.dropLast_subset w)
      · exact hw
    · exact hw

theorem solid_of_baseOfIes? (h : baseOfIes? w = some b) : Solid b := by
  obtain ⟨s, hs, h⟩ := Option.bind_eq_some_iff.mp h
  split_ifs at h
  rw [← Option.some.inj h]
  exact Solid.append_singleton (fun c hc => hw.not_isBlank c (subset_of_stem? hs hc)) rfl

theorem solid_of_baseOfHissing? (h : baseOfHissing? w = some b) : Solid b := by
  obtain ⟨s, hs, h⟩ := Option.bind_eq_some_iff.mp h
  split_ifs at h with hhiss
  rw [← Option.some.inj h]
  obtain ⟨ending, hending, hhiss⟩ := List.any_eq_true.mp hhiss
  have hne : ∀ e ∈ ["ss", "sh", "ch", "x", "z"], e.toList ≠ [] := by decide
  exact hw.of_subset (ne_nil_of_hasEnding hhiss (hne ending hending)) (subset_of_stem? hs)

theorem solid_of_baseOfS? (h : baseOfS? w = some b) : Solid b := by
  obtain ⟨s, hs, h⟩ := Option.bind_eq_some_iff.mp h
  split_ifs at h with hlong
  rw [← Option.some.inj h]
  simp only [Bool.and_eq_true, decide_eq_true_eq] at hlong
  exact hw.of_subset (ne_nil_of_byteLength hlong.2) (subset_of_stem? hs)

theorem solid_of_baseOfIed? (h : baseOfIed? w = some b) : Solid b := by
  obtain ⟨s, hs, rfl⟩ := Option.map_eq_some_iff.mp h
  exact Solid.append_singleton (fun c hc => hw.not_isBlank c (subset_of_stem? hs hc)) rfl

theorem solid_of_baseOfEnding? {ending : String} (h : baseOfEnding? ending w = some b) :
    Solid b := by
  obtain ⟨s, hs, h⟩ := Option.bind_eq_some_iff.mp h
  split_ifs at h with hlong
  rw [← Option.some.inj h]
  exact solid_restoreStem (hw.of_subset (ne_nil_of_byteLength hlong) (subset_of_stem? hs))

/-- **The base form of a solid word is solid**, whichever rule gives it. -/
theorem solid_lemmatizeVerb : Solid (lemmatizeVerb w) := by
  unfold lemmatizeVerb
  cases h : (irregularBase? w <|> baseOfIes? w <|> baseOfHissing? w <|> baseOfS? w
    <|> baseOfIed? w <|> baseOfEnding? "ed" w <|> baseOfEnding? "ing" w) with
  | none => exact hw
  | some b =>
    -- the rules in the order in which they are tried
    simp only [Option.orElse_eq_orElse, Option.orElse_eq_or, Option.or_eq_some_iff] at h
    rcases h with h | ⟨-, h | ⟨-, h | ⟨-, h | ⟨-, h | ⟨-, h | ⟨-, h⟩⟩⟩⟩⟩⟩
    · exact solid_of_irregularBase? h
    · exact solid_of_baseOfIes? hw h
    · exact solid_of_baseOfHissing? hw h
    · exact solid_of_baseOfS? hw h
    · exact solid_of_baseOfIed? hw h
    · exact solid_of_baseOfEnding? hw h
    · exact solid_of_baseOfEnding? hw h

theorem solid_of_verbBase? (h : verbBase? w = some b) : Solid b := by
  unfold verbBase? at h
  split_ifs at h
  · exact Option.some.inj h ▸ hw
  · simp only [Option.orElse_eq_orElse, Option.orElse_eq_or, Option.or_eq_some_iff] at h
    rcases h with h | ⟨-, h⟩
    · exact solid_of_irregularBase? h
    · split_ifs at h
      exact Option.some.inj h ▸ solid_lemmatizeVerb hw

end Rules

/-! ## Tokens -/

/-- A token of solid words, which begins with a capital if it is a proper noun. -/
structure Token.WellFormed (t : Token) : Prop where
  text : Solid t.text
  lower : Solid t.lower
  base : Solid t.base
  capitalized : t.isProperNoun = true → t.isCapitalized = true

/-- No closed class is that of proper nouns. -/
theorem closedClass?_ne_properNoun (lower : List Char) : closedClass? lower ≠ some .properNoun := by
  intro h
  simp only [closedClass?] at h
  repeat' split at h
  all_goals contradiction

theorem capitalized_of_lexicalTag {word lower : List Char} {opening : Bool}
    (h : lexicalTag word lower opening = .properNoun) : word.head?.any isUppercase = true := by
  by_contra hcapital
  rw [Bool.not_eq_true] at hcapital
  simp only [lexicalTag, hcapital, Bool.false_and, Bool.false_eq_true, if_false] at h
  cases hclosed : closedClass? lower with
  | some tag =>
    simp only [hclosed] at h
    split_ifs at h
    exact closedClass?_ne_properNoun lower (h ▸ hclosed)
  | none =>
    simp only [hclosed] at h
    split_ifs at h

theorem wellFormed_lexicalToken {word : List Char} (hword : Solid word) (opening : Bool) :
    (lexicalToken word opening).WellFormed := by
  refine ⟨hword, hword.lowerChars, ?_, fun h => ?_⟩
  · unfold lexicalToken
    dsimp only
    split_ifs
    · cases hbase : verbBase? (lowerChars word) with
      | none => exact hword.lowerChars
      | some b => exact solid_of_verbBase? hword.lowerChars hbase
    · exact hword.lowerChars
  · exact capitalized_of_lexicalTag (beq_iff_eq.mp h)

/-- The second pass moves words of the open classes only, and a proper noun only where it opens the
sentence. -/
theorem correct_eq_self {ctx : LeftContext} {next : Option Token} {t : Token}
    (hverb : t.tag ≠ .verb) (hnoun : t.tag ≠ .noun)
    (hproper : t.tag = .properNoun → ctx.opening = false) : correct ctx next t = t := by
  unfold correct
  split
  · exact absurd ‹_› hverb
  · exact absurd ‹_› hnoun
  · rename_i htag
    rw [hproper htag, Bool.false_and, if_neg Bool.false_ne_true]
  · rfl

/-- A correction gives a noun its small form for a base form, or a verb the base form of
it. -/
theorem Token.WellFormed.correct {t : Token} (h : t.WellFormed) (ctx : LeftContext)
    (next : Option Token) : (correct ctx next t).WellFormed := by
  unfold Prose.correct
  split
  · -- a verb may become a noun
    split_ifs
    · exact ⟨h.text, h.lower, h.lower, fun hnoun => absurd hnoun Bool.false_ne_true⟩
    · exact h
  · -- a noun may become a verb
    dsimp only
    split_ifs
    · exact ⟨h.text, h.lower, solid_lemmatizeVerb h.lower, fun hnoun => absurd hnoun Bool.false_ne_true⟩
    · exact h
  · -- a proper noun may become a verb, and that is the only way it ceases to be one
    split_ifs
    · split
      · rename_i b hbase
        exact ⟨h.text, h.lower, solid_of_verbBase? h.lower hbase,
          fun hnoun => absurd hnoun Bool.false_ne_true⟩
      · exact h
    · exact h
  · exact h

theorem forall_mem_correctFrom {P : Token → Prop}
    (hcorrect : ∀ ctx next t, P t → P (correct ctx next t)) {ctx : LeftContext}
    {tokens : List Token} (htokens : ∀ t ∈ tokens, P t) : ∀ t ∈ correctFrom ctx tokens, P t := by
  induction tokens generalizing ctx with
  | nil => exact fun t ht => absurd ht List.not_mem_nil
  | cons first rest ih =>
    intro t ht
    rw [correctFrom] at ht
    rcases List.mem_cons.mp ht with rfl | ht
    · exact hcorrect ctx _ first (htokens first List.mem_cons_self)
    · exact ih (fun u hu => htokens u (List.mem_cons_of_mem _ hu)) t ht

/-- **What the first pass gives every word and the second one keeps holds of all tokens.** -/
theorem forall_mem_tag {P : Token → Prop} {words : List (List Char)}
    (hlexical : ∀ w ∈ words, ∀ opening, P (lexicalToken w opening))
    (hcorrect : ∀ ctx next t, P t → P (correct ctx next t)) : ∀ t ∈ tag words, P t := by
  refine forall_mem_correctFrom hcorrect fun t ht => ?_
  cases words with
  | nil => exact absurd ht List.not_mem_nil
  | cons word rest =>
    rw [lexicalTokens] at ht
    rcases List.mem_cons.mp ht with rfl | ht
    · exact hlexical word List.mem_cons_self true
    · obtain ⟨w, hw, rfl⟩ := List.mem_map.mp ht
      exact hlexical w (List.mem_cons_of_mem _ hw) false

/-- **The tokens of a sentence are well formed.** -/
theorem wellFormed_of_mem_tagSentence {s : List Char} {t : Token} (h : t ∈ tagSentence s) :
    t.WellFormed :=
  forall_mem_tag (fun _ hw => wellFormed_lexicalToken (solid_of_mem_tokenize hw))
    (fun ctx next _ ht => ht.correct ctx next) t h

/-- A word without letters and numbers is no name in the first pass, and the second one makes no
names. -/
theorem any_isAlphanumeric_of_isProperNoun {words : List (List Char)} {t : Token} (h : t ∈ tag words)
    (hproper : t.isProperNoun = true) : t.text.any isAlphanumeric = true := by
  refine forall_mem_tag (P := fun t => t.isProperNoun = true → t.text.any isAlphanumeric = true)
    (fun w _ opening hname => ?_) (fun ctx next u hu => ?_) t h hproper
  · have htag : lexicalTag w (lowerChars w) opening = .properNoun := beq_iff_eq.mp hname
    by_contra hnone
    have hmark : w.any isAlphanumeric = false := Bool.eq_false_iff.mpr hnone
    rw [lexicalTag, hmark] at htag
    exact absurd htag (by simp)
  · unfold correct
    split
    · split_ifs
      · exact fun hname => absurd hname Bool.false_ne_true
      · exact hu
    · dsimp only
      split_ifs
      · exact fun hname => absurd hname Bool.false_ne_true
      · exact hu
    · split_ifs
      · split
        · exact fun hname => absurd hname Bool.false_ne_true
        · exact hu
      · exact hu
    · exact hu

/-! ## Phrases of tokens -/

section Phrases

variable {tokens : List Token} (htokens : ∀ t ∈ tokens, t.WellFormed)
include htokens

theorem solid_of_mem_map_text : ∀ w ∈ tokens.map Token.text, Solid w := by
  intro w hw
  obtain ⟨t, ht, rfl⟩ := List.mem_map.mp hw
  exact (htokens t ht).text

theorem trimmed_joinWords : Trimmed (joinWords tokens) :=
  trimmed_intercalate (solid_of_mem_map_text htokens)

theorem joinWords_ne_nil (hne : tokens ≠ []) : joinWords tokens ≠ [] :=
  intercalate_ne_nil (solid_of_mem_map_text htokens) (by simpa using hne)

end Phrases

end Draftsman.Prose
