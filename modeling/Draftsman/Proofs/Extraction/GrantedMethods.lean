/-
The verbs that a modal grants to its subject as methods.

In "A Member can log in and quickly search" the first verb stands right behind the modal, and each
later one behind a comma or a conjunction, in both places with nothing but adverbs between them. The
scan for later verbs remembers one bit, that the word it has just passed was such a separator; read
as a statement about the words in front of a verb this is `Joined` (`mem_coordinatedVerbs_iff`). The
first verb grants nothing if it is an auxiliary, and then no other verb does. A verb that is joined
to it is taken whatever it is, though: an auxiliary becomes a method in this place, and in no
other (`auxiliary_method_iff`).
-/
import Draftsman.Proofs.Extraction.Recorded

set_option autoImplicit false

namespace Draftsman.Extraction

open Draftsman.Text Draftsman.Prose

/-! ## Verbs that are joined -/

/-- The verb comes next, with nothing but adverbs in front of it. -/
def ComesNext (tokens : List Token) (verb : Token) : Prop :=
  ∃ adverbs rest, tokens = adverbs ++ verb :: rest ∧ (∀ t ∈ adverbs, t.tag = .adverb) ∧
    verb.tag = .verb

/-- The verb is joined to what stands in front of these words: it comes next behind a separator,
and no modal stands in front of that. -/
def Joined (tokens : List Token) (verb : Token) : Prop :=
  ∃ front separator rest, tokens = front ++ separator :: rest ∧ (∀ t ∈ front, t.tag ≠ .modal) ∧
    separator.isSeparator = true ∧ ComesNext rest verb

theorem not_comesNext_nil (verb : Token) : ¬ComesNext [] verb := by
  rintro ⟨adverbs, rest, h, -, -⟩
  exact List.append_ne_nil_of_right_ne_nil adverbs (List.cons_ne_nil verb rest) h.symm

theorem comesNext_cons {t verb : Token} {rest : List Token} :
    ComesNext (t :: rest) verb ↔
      (t = verb ∧ t.tag = .verb) ∨ (t.tag = .adverb ∧ ComesNext rest verb) := by
  constructor
  · rintro ⟨adverbs, more, h, hadverbs, hverb⟩
    cases adverbs with
    | nil =>
      obtain ⟨rfl, -⟩ := List.cons.inj h
      exact .inl ⟨rfl, hverb⟩
    | cons u adverbs =>
      obtain ⟨rfl, rfl⟩ := List.cons.inj h
      obtain ⟨hadverb, hadverbs⟩ := List.forall_mem_cons.mp hadverbs
      exact .inr ⟨hadverb, adverbs, more, rfl, hadverbs, hverb⟩
  · rintro (⟨rfl, hverb⟩ | ⟨hadverb, adverbs, more, rfl, hadverbs, hverb⟩)
    · exact ⟨[], rest, rfl, fun u hu => absurd hu List.not_mem_nil, hverb⟩
    · exact ⟨t :: adverbs, more, rfl, List.forall_mem_cons.mpr ⟨hadverb, hadverbs⟩, hverb⟩

theorem not_joined_nil (verb : Token) : ¬Joined [] verb := by
  rintro ⟨front, separator, rest, h, -⟩
  exact List.append_ne_nil_of_right_ne_nil front (List.cons_ne_nil separator rest) h.symm

theorem joined_cons {t verb : Token} {rest : List Token} :
    Joined (t :: rest) verb ↔
      (t.isSeparator = true ∧ ComesNext rest verb) ∨ (t.tag ≠ .modal ∧ Joined rest verb) := by
  constructor
  · rintro ⟨front, separator, more, h, hfront, hseparator, hverb⟩
    cases front with
    | nil =>
      obtain ⟨rfl, rfl⟩ := List.cons.inj h
      exact .inl ⟨hseparator, hverb⟩
    | cons u front =>
      obtain ⟨rfl, rfl⟩ := List.cons.inj h
      obtain ⟨hmodal, hfront⟩ := List.forall_mem_cons.mp hfront
      exact .inr ⟨hmodal, front, separator, more, rfl, hfront, hseparator, hverb⟩
  · rintro (⟨hseparator, hverb⟩ | ⟨hmodal, front, separator, more, rfl, hfront, hverb⟩)
    · exact ⟨[], t, rest, rfl, fun u hu => absurd hu List.not_mem_nil, hseparator, hverb⟩
    · exact ⟨t :: front, separator, more, rfl, List.forall_mem_cons.mpr ⟨hmodal, hfront⟩, hverb⟩

/-- What a separator is not. -/
theorem tag_ne_of_isSeparator {t : Token} (h : t.isSeparator = true) :
    t.tag ≠ .modal ∧ t.tag ≠ .adverb ∧ t.tag ≠ .verb := by
  rcases tag_of_isSeparator h with htag | htag <;> (rw [htag]; decide)

/-- **The scan for coordinated verbs finds the verbs that are joined**, and if a separator has just
been passed, the verb that comes next. The induction is on the words, one of which decides what is
remembered for the next. -/
theorem mem_coordinatedVerbs_iff {armed : Bool} {tokens : List Token} {verb : Token} :
    verb ∈ coordinatedVerbs armed tokens ↔
      (armed = true ∧ ComesNext tokens verb) ∨ Joined tokens verb := by
  induction tokens generalizing armed with
  | nil =>
    refine iff_of_false List.not_mem_nil ?_
    rintro (⟨-, h⟩ | h)
    · exact not_comesNext_nil verb h
    · exact not_joined_nil verb h
  | cons t rest ih =>
    rw [coordinatedVerbs, comesNext_cons, joined_cons]
    by_cases hmodal : t.tag = .modal
    · -- the next modal ends the scan
      have hseparator : ¬t.isSeparator = true := fun h => (tag_ne_of_isSeparator h).1 hmodal
      rw [if_pos hmodal]
      simp [hmodal, hseparator]
    rw [if_neg hmodal]
    by_cases hadverb : t.tag = .adverb
    · -- an adverb is passed over
      have hseparator : t.isSeparator = false :=
        Bool.eq_false_iff.mpr fun h => (tag_ne_of_isSeparator h).2.1 hadverb
      cases armed
      · simp [hadverb, hseparator, ih]
      · simp [hadverb, hseparator, ih]
    by_cases hverb : t.tag = .verb
    · have hseparator : t.isSeparator = false :=
        Bool.eq_false_iff.mpr fun h => (tag_ne_of_isSeparator h).2.2 hverb
      cases armed
      · simp [hverb, hseparator, ih]
      · simp [hverb, hseparator, ih, eq_comm]
    · -- any other word is a separator or forgets the one before it
      simp [hadverb, hverb, hmodal, ih]

/-- The first word that is no adverb, if it is a verb and no auxiliary, takes the verbs along that
the scan behind it collects. -/
theorem governedVerbs_append {adverbs : List Token} (hadverbs : ∀ t ∈ adverbs, t.tag = .adverb)
    {first : Token} (hverb : first.tag = .verb) (hown : first.isAuxiliary = false)
    (rest : List Token) :
    governedVerbs (adverbs ++ first :: rest) = first :: coordinatedVerbs false rest := by
  have hdrop : (adverbs ++ first :: rest).dropWhile (fun t => t.tag = .adverb) = first :: rest := by
    rw [List.dropWhile_append_of_pos fun t ht => decide_eq_true (hadverbs t ht),
      List.dropWhile_cons_of_neg (by rw [hverb]; decide)]
  have hfirst : (first.tag = .verb && !first.isAuxiliary) = true := by rw [hown, hverb]; rfl
  rw [governedVerbs, hdrop]
  exact if_pos hfirst

/-- **The verbs that a modal governs**: the first word that is no adverb, if it is a verb and no
auxiliary, and then the verbs that are joined to it. -/
theorem mem_governedVerbs_iff {after : List Token} {verb : Token} :
    verb ∈ governedVerbs after ↔
      ∃ adverbs first rest, after = adverbs ++ first :: rest ∧ (∀ t ∈ adverbs, t.tag = .adverb) ∧
        first.tag = .verb ∧ first.isAuxiliary = false ∧ (verb = first ∨ Joined rest verb) := by
  have hnone : ∀ rest, ¬(false = true ∧ ComesNext rest verb) := fun _ h => Bool.false_ne_true h.1
  constructor
  · intro h
    unfold governedVerbs at h
    split at h
    · rename_i first rest hrest
      split_ifs at h with hfirst
      · rw [Bool.and_eq_true, decide_eq_true_iff, Bool.not_eq_true'] at hfirst
        refine ⟨after.takeWhile fun t => t.tag = .adverb, first, rest, ?_, fun t ht => ?_,
          hfirst.1, hfirst.2, ?_⟩
        · rw [← hrest, List.takeWhile_append_dropWhile]
        · simpa using List.mem_takeWhile_imp ht
        · rwa [List.mem_cons, mem_coordinatedVerbs_iff, or_iff_right (hnone rest)] at h
      · exact absurd h List.not_mem_nil
    · exact absurd h List.not_mem_nil
  · rintro ⟨adverbs, first, rest, rfl, hadverbs, hverb, hown, h⟩
    rwa [governedVerbs_append hadverbs hverb hown, List.mem_cons, mem_coordinatedVerbs_iff,
      or_iff_right (hnone rest)]

/-! ## Methods -/

theorem mem_viewsAfter_append (seen before : List Token) (t : Token) (after : List Token) :
    ⟨before.reverse ++ seen, t, after⟩ ∈ viewsAfter seen (before ++ t :: after) := by
  induction before generalizing seen with
  | nil => exact List.mem_cons_self
  | cons u before ih =>
    rw [List.cons_append, viewsAfter, List.reverse_cons, List.append_assoc, List.singleton_append]
    exact List.mem_cons_of_mem _ (ih (u :: seen))

/-- **Every word of a sentence is seen in its place, and nothing else is.** -/
theorem mem_views_iff {tokens : List Token} {v : View} :
    v ∈ views tokens ↔ v.before.reverse ++ v.token :: v.after = tokens := by
  constructor
  · exact eq_of_mem_views
  · rintro rfl
    have h := mem_viewsAfter_append [] v.before.reverse v.token v.after
    rwa [List.reverse_reverse, List.append_nil] at h

theorem method_mem_methodFindings_iff {v : View} {owner item : String} :
    .method owner item ∈ methodFindings v ↔
      v.token.tag = .modal ∧ ∃ subject, subject? v.before = some subject ∧
        nameText subject = owner ∧ ∃ verb ∈ governedVerbs v.after,
          item = String.ofList verb.base ++ "()" := by
  unfold methodFindings
  by_cases hmodal : v.token.tag = .modal
  · rw [if_pos hmodal, and_iff_right hmodal]
    cases hsubject : subject? v.before with
    | none => simp
    | some subject =>
      dsimp only
      rw [List.mem_map]
      constructor
      · rintro ⟨verb, hverb, h⟩
        obtain ⟨howner, hitem⟩ := Finding.method.inj h
        exact ⟨subject, rfl, howner, verb, hverb, hitem.symm⟩
      · rintro ⟨_, h, rfl, verb, hverb, rfl⟩
        exact ⟨verb, hverb, by rw [Option.some.inj h]⟩
  · rw [if_neg hmodal]
    exact iff_of_false List.not_mem_nil fun h => hmodal h.1

/-- A modal grants its subject a verb: the modal stands behind the name, and the verb, which is no
auxiliary, behind the modal, in both places with nothing but transparent words or adverbs between
them. `rest` is what follows the verb. -/
inductive Grants (tokens : List Token) (owner : String) (first : Token) (rest : List Token) : Prop
  | intro {before adverbs subject : List Token} {modal : Token}
      (htokens : tokens = before ++ modal :: (adverbs ++ first :: rest))
      (hmodal : modal.tag = .modal) (hsubject : subject? before.reverse = some subject)
      (howner : nameText subject = owner) (hadverbs : ∀ t ∈ adverbs, t.tag = .adverb)
      (hverb : first.tag = .verb) (hown : first.isAuxiliary = false)

theorem method_mem_sentenceFindings {sentence : List Char} {owner item : String} :
    .method owner item ∈ sentenceFindings sentence ↔
      ∃ v ∈ views (tagSentence sentence), .method owner item ∈ methodFindings v := by
  constructor
  · intro h
    simp only [sentenceFindings, List.mem_append, List.mem_flatMap] at h
    rcases h with ((h | ⟨v, hv, h⟩) | h) | ⟨v, hv, h⟩
    · obtain ⟨run, -, hrun⟩ := List.mem_map.mp h
      exact absurd hrun (by simp)
    · obtain ⟨subject, -, listed, -, -, hf⟩ := exists_of_mem_attributeFindings hv h
      exact absurd hf (by simp)
    · exact h
    · obtain ⟨subject, -, object, -, hf⟩ := exists_of_mem_relationshipFindings hv h
      exact absurd hf (by simp)
  · intro h
    exact List.mem_append_left _ (List.mem_append_right _ (List.mem_flatMap.mpr h))

/-- **The methods that a sentence grants**: the verb behind a modal, and the verbs that are joined
to it. -/
theorem method_mem_sentenceFindings_iff {sentence : List Char} {owner item : String} :
    .method owner item ∈ sentenceFindings sentence ↔
      ∃ first rest verb, Grants (tagSentence sentence) owner first rest ∧
        (verb = first ∨ Joined rest verb) ∧ item = String.ofList verb.base ++ "()" := by
  rw [method_mem_sentenceFindings]
  constructor
  · rintro ⟨v, hv, h⟩
    obtain ⟨hmodal, subject, hsubject, howner, verb, hverb, hitem⟩ :=
      method_mem_methodFindings_iff.mp h
    obtain ⟨adverbs, first, rest, hafter, hadverbs, hfirst, hown, hverb⟩ :=
      mem_governedVerbs_iff.mp hverb
    have htokens := (mem_views_iff.mp hv).symm
    rw [hafter] at htokens
    rw [← v.before.reverse_reverse] at hsubject
    exact ⟨first, rest, verb, ⟨htokens, hmodal, hsubject, howner, hadverbs, hfirst, hown⟩, hverb,
      hitem⟩
  · rintro ⟨first, rest, verb, ⟨htokens, hmodal, hsubject, howner, hadverbs, hfirst, hown⟩, hverb,
      hitem⟩
    rename_i before adverbs subject modal
    refine ⟨⟨before.reverse, modal, adverbs ++ first :: rest⟩, ?_, ?_⟩
    · rw [mem_views_iff, htokens, List.reverse_reverse]
    · refine method_mem_methodFindings_iff.mpr ⟨hmodal, subject, hsubject, howner, verb, ?_, hitem⟩
      exact mem_governedVerbs_iff.mpr ⟨adverbs, first, rest, rfl, hadverbs, hfirst, hown, hverb⟩

/-! ## Auxiliaries -/

theorem isAuxiliary_iff {t : Token} :
    t.isAuxiliary = true ↔ t.tag = .verb ∧ String.ofList t.base ∈ Lexicon.auxiliaries := by
  rw [Token.isAuxiliary, Bool.and_eq_true, beq_iff_eq, List.contains_iff_mem]

/-- A verb that is joined is a verb. -/
theorem Joined.tag_eq {rest : List Token} {verb : Token} (h : Joined rest verb) :
    verb.tag = .verb := by
  obtain ⟨front, separator, more, -, -, -, adverbs, last, -, -, hverb⟩ := h
  exact hverb

/-- **When an auxiliary becomes a method.** It never does as the first verb behind a modal. It does
whenever it is joined to the first verb, which is no auxiliary itself, by a comma or a conjunction
in front of the next modal: the class of the subject then has the auxiliary among its methods, and
there is no other way for a class to have one. -/
theorem auxiliary_method_iff (text owner auxiliary : String) :
    (auxiliary ∈ Lexicon.auxiliaries ∧
      ∃ c ∈ (extract text).classes, c.name = owner ∧ auxiliary ++ "()" ∈ c.methods) ↔
    ∃ sentence ∈ proseSentences text, ∃ first rest verb,
      Grants (tagSentence sentence) owner first rest ∧ Joined rest verb ∧
        verb.isAuxiliary = true ∧ String.ofList verb.base = auxiliary := by
  rw [exists_method_iff, method_mem_findings_iff]
  constructor
  · rintro ⟨hauxiliary, sentence, hsentence, hmethod⟩
    obtain ⟨first, rest, verb, hgrants, hverb, hitem⟩ :=
      method_mem_sentenceFindings_iff.mp hmethod
    have hbase : String.ofList verb.base = auxiliary := (String.append_left_inj "()").mp hitem.symm
    rw [← hbase] at hauxiliary
    have hjoined : Joined rest verb := by
      refine hverb.resolve_left ?_
      -- the first verb would not have been taken
      rintro rfl
      obtain ⟨-, -, -, -, -, htag, hown⟩ := hgrants
      rw [isAuxiliary_iff.mpr ⟨htag, hauxiliary⟩] at hown
      exact absurd hown (by decide)
    exact ⟨sentence, hsentence, first, rest, verb, hgrants, hjoined,
      isAuxiliary_iff.mpr ⟨hjoined.tag_eq, hauxiliary⟩, hbase⟩
  · rintro ⟨sentence, hsentence, first, rest, verb, hgrants, hjoined, hauxiliary, rfl⟩
    refine ⟨(isAuxiliary_iff.mp hauxiliary).2, sentence, hsentence, ?_⟩
    exact method_mem_sentenceFindings_iff.mpr ⟨first, rest, verb, hgrants, .inr hjoined, rfl⟩

/-- In "can log in and be" the conjunction takes the auxiliary along. -/
theorem joined_auxiliary_becomes_method :
    "be" ∈ Lexicon.auxiliaries ∧
      extract "A Member can log in and be active." =
        ⟨[⟨"Member", [], ["log()", "be()"]⟩], []⟩ := by
  decide +kernel

end Draftsman.Extraction
