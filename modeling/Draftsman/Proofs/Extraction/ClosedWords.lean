/-
Words of the closed classes within names.

A name is a run of proper nouns, so what tagging does to determiners, modals and their like it does
to names as well. A small "must" never joins a name, and a "The" at the beginning of a sentence does
not either. Everywhere else a capital counts for more than the lexicons do: "A System MUST store
Records" names a class "System MUST".
-/
import Draftsman.Proofs.Extraction.Recorded
import Draftsman.Proofs.Prose.ClosedClasses

set_option autoImplicit false

namespace Draftsman.Extraction

open Draftsman.Text Draftsman.Prose

/-- **Words of the closed classes have their class, and are in no names, unless they have a capital
where they do not open the sentence.** The pronoun "I" has its class with a capital, too. The sign
"&" is a mark, whatever the lexicons say of it, and left aside here. -/
theorem closed_words_need_capitals :
    (∀ (words : List (List Char)) (i : Nat) (word : List Char), words[i]? = some word →
      ∀ entry ∈ closedClasses, String.ofList (lowerChars word) ∈ entry.1 →
        lowerChars word ≠ ['&'] →
        ∃ t, (tag words)[i]? = some t ∧ t.text = word ∧
          t.tag = placedClass entry.2 word (i == 0)) ∧
    ∀ (text : String), ∀ sentence ∈ proseSentences text,
      ∀ run ∈ nameRuns (tagSentence sentence),
        (∃ c ∈ (extract text).classes, c.name = nameText run) ∧
        ∀ t ∈ run, ∀ entry ∈ closedClasses, String.ofList (lowerChars t.text) ∈ entry.1 →
          lowerChars t.text ≠ ['&'] →
          t.isCapitalized = true ∧ lowerChars t.text ≠ ['i'] ∧
            (tagSentence sentence).head? ≠ some t := by
  constructor
  · intro words i word hword entry hentry hlisted hsign
    exact exists_getElem?_tag_of_closed hword hentry hlisted hsign
  · intro text sentence hsentence run hrun
    refine ⟨exists_class_of_mem_nameRuns hsentence hrun, fun t ht entry hentry hlisted hsign => ?_⟩
    obtain ⟨hmem, hproper⟩ := forall_mem_nameRuns hrun t ht
    exact capitalized_of_closed hmem hproper hentry hlisted hsign

/-- Three words of closed classes in one sentence, the last of them in a name. -/
theorem closed_words_of_a_record :
    (∃ t, (tag (tokenize "The Clerk must file The Record".toList))[0]? = some t ∧
      t.text = "The".toList ∧ t.tag = .determiner) ∧
    (∃ t, (tag (tokenize "The Clerk must file The Record".toList))[2]? = some t ∧
      t.text = "must".toList ∧ t.tag = .modal) ∧
    ∃ run ∈ nameRuns (tagSentence "The Clerk must file The Record".toList),
      nameText run = "The Record" ∧
      (∃ c ∈ (extract "The Clerk must file The Record").classes, c.name = nameText run) ∧
      ∃ t ∈ run, t.text = "The".toList ∧ t.isCapitalized = true ∧
        (tagSentence "The Clerk must file The Record".toList).head? ≠ some t := by
  have hsentence : "The Clerk must file The Record".toList ∈
      proseSentences "The Clerk must file The Record" := by decide +kernel
  have hrun : ∃ run ∈ nameRuns (tagSentence "The Clerk must file The Record".toList),
      nameText run = "The Record" ∧ ∃ t ∈ run, t.text = "The".toList := by decide +kernel
  obtain ⟨run, hrun, hname, t, ht, hthe⟩ := hrun
  obtain ⟨htags, hnames⟩ := closed_words_need_capitals
  obtain ⟨hclass, hwords⟩ := hnames _ _ hsentence run hrun
  have hlower : lowerChars t.text = "the".toList := by
    rw [hthe]
    decide +kernel
  obtain ⟨hcapital, -, hfirst⟩ := hwords t ht (Lexicon.determiners, .determiner) (by decide)
    (by rw [hlower]; decide +kernel) (by rw [hlower]; decide)
  refine ⟨?_, ?_, run, hrun, hname, hclass, t, ht, hthe, hcapital, hfirst⟩
  · exact htags _ 0 "The".toList (by decide +kernel) (Lexicon.determiners, .determiner)
      (by decide) (by decide +kernel) (by decide +kernel)
  · exact htags _ 2 "must".toList (by decide +kernel) (Lexicon.modals, .modal) (by decide)
      (by decide +kernel) (by decide +kernel)

/-- A modal in capitals is a proper noun and part of a name, and the sign "&" is listed as a
conjunction but tagged as a mark. -/
theorem capital_modal_joins_name :
    "must" ∈ Lexicon.modals ∧ lowerChars "MUST".toList = "must".toList ∧
      (tagSentence "A System MUST store Records".toList).map (fun t => (t.text, t.tag)) =
        [("A".toList, .determiner), ("System".toList, .properNoun), ("MUST".toList, .properNoun),
          ("store".toList, .verb), ("Records".toList, .properNoun)] ∧
      (extract "A System MUST store Records").classes.map ClassEntry.name =
        ["System MUST", "Records"] ∧
      "&" ∈ Lexicon.conjunctions ∧ (tagSentence "&".toList).map Token.tag = [.punctuation] := by
  decide +kernel

end Draftsman.Extraction
