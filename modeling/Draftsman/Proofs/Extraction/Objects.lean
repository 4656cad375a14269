/-
Where the objects of a verb of having go.

"A Library has books, Members and a Rare Book shelf" lists things of two kinds, and two passes over
the sentence read the list, each for the kind it is after: one takes what is no name for an
attribute, the other relates the subject to what is one. That the two do not miss or share an item
rests on how a list lies in its sentence (`Coordinated`). Every item has words on both sides that
are no nouns, so the names of the sentence are those in front of the list, then item by item those
within it, and those behind it (`Coordinated.nameRuns_eq`). An item that consists of proper nouns
is therefore a whole name, and no name reaches over the end of an item.
-/
import Draftsman.Proofs.Extraction.ClassNames
import Draftsman.Proofs.Extraction.Recorded

set_option autoImplicit false

namespace Draftsman.Extraction

open Draftsman.Text Draftsman.Prose

/-! ## The names in a list -/

/-- An item of proper nouns is a name, and the only one in it. -/
theorem nameRuns_eq_singleton {item : List Token} (hne : item ≠ []) (hname : isName item = true) :
    nameRuns item = [item] := by
  have hnone : BeginsApart [] := fun t ht => nomatch ht
  have h := nameRuns_append hne (List.all_eq_true.mp hname) hnone
  rwa [List.append_nil] at h

/-- **No name reaches over the end of an item.** -/
theorem Coordinated.nameRuns_eq {tokens left : List Token} {items : List (List Token)}
    (h : Coordinated tokens items left) :
    nameRuns tokens = items.flatMap nameRuns ++ nameRuns left := by
  have hskip {modifiers : List Token} (hmodifiers : ∀ t ∈ modifiers, isModifier t = true)
      (rest : List Token) : nameRuns (modifiers ++ rest) = nameRuns rest :=
    nameRuns_append_of_forall
      (fun t ht => not_isProperNoun_of_isModifier (hmodifiers t ht)) rest
  induction h with
  | stop hmodifiers hleft => rw [hskip hmodifiers, List.flatMap_nil, List.nil_append]
  | @last modifiers item left hmodifiers hne hitem hleft =>
    have hapart : BeginsApart left :=
      fun t ht => not_isProperNoun_of_not_isNoun (hleft t ht).1
    rw [hskip hmodifiers, nameRuns_append_of_beginsApart item hapart, List.flatMap_singleton]
  | @more modifiers item link rest left items hmodifiers hne hitem hlink hrest ih =>
    rw [hskip hmodifiers, nameRuns_append_of_beginsApart item hlink.beginsApart,
      nameRuns_append_of_forall hlink.not_isProperNoun, ih, List.flatMap_cons, List.append_assoc]

/-! ## The two readings of a list -/

/-- What a verb of having says about an item of its list: a name is a part of the subject, anything
else an attribute. -/
def placed (subject item : List Token) : Finding :=
  if isName item then .related ⟨nameText subject, nameText item, .composition, ""⟩
  else .attribute (nameText subject) (nameText item)

section Verbs

variable {v : View} (hverb : v.token.tag = .verb)
  (hbase : String.ofList v.token.base ∈ attributeVerbs)
  {subject : List Token} (hsubject : subject? v.before = some subject)
include hverb hbase hsubject

theorem attributeFindings_eq_placed :
    attributeFindings v =
      ((objectItems v.after).filter fun item => !isName item).map (placed subject) := by
  have hhaving : (v.token.tag = .verb && inVocabulary attributeVerbs v.token) = true := by
    simpa [hverb, inVocabulary] using hbase
  rw [attributeFindings, if_pos hhaving, hsubject]
  refine List.map_congr_left fun item hitem => ?_
  have hname := (List.mem_filter.mp hitem).2
  rw [placed, if_neg (by simpa using hname)]

/-- The verbs of having are verbs of composition, and "do" is none of them. -/
theorem relationshipFindings_eq_placed (sentence : List Char)
    (hnext : ∀ t ∈ v.after.head?, t.tag ≠ .preposition) :
    relationshipFindings sentence v =
      ((objectItems v.after).filter isName).map (placed subject) := by
  have hvocabularies : ∀ base ∈ attributeVerbs, base.toList ≠ "do".toList ∧
      inheritanceVerbs.contains base = false ∧ compositionVerbs.contains base = true := by
    decide
  obtain ⟨hdo, hinheritance, hcomposition⟩ := hvocabularies _ hbase
  rw [String.toList_ofList] at hdo
  have hrelating : (v.token.tag = .verb && v.token.base ≠ "do".toList) = true := by
    simpa [hverb] using hdo
  have hafter : v.after.dropWhile (fun t => decide (t.tag = .preposition)) = v.after :=
    dropWhile_append_of_cut (a := []) (fun t ht => nomatch ht)
      fun t ht => decide_eq_false (hnext t ht)
  rw [relationshipFindings, if_pos hrelating, hsubject]
  dsimp only
  rw [hafter]
  refine List.map_congr_left fun item hitem => ?_
  rw [placed, if_pos (List.mem_filter.mp hitem).2, relationshipOf, inVocabulary, inVocabulary,
    hinheritance, hcomposition]
  rfl

end Verbs

/-- **Each object of a verb of having goes to one place.** Let such a verb stand in a sentence of a
text, with a subject and no preposition behind it. The words behind it list some items, and what the
two readings of that list say is one finding for each item and nothing else. An item of proper nouns
is one whole name of the sentence, and a part of the subject; any other is an attribute of it. -/
theorem objects_go_to_one_place {text : String} {sentence : List Char}
    (hsentence : sentence ∈ proseSentences text) {v : View} (hv : v ∈ views (tagSentence sentence))
    (hverb : v.token.tag = .verb) (hbase : String.ofList v.token.base ∈ attributeVerbs)
    {subject : List Token} (hsubject : subject? v.before = some subject)
    (hnext : ∀ t ∈ v.after.head?, t.tag ≠ .preposition) :
    ∃ items left, Coordinated v.after items left ∧
      nameRuns (tagSentence sentence) =
        nameRuns v.before.reverse ++ (items.flatMap nameRuns ++ nameRuns left) ∧
      attributeFindings v = (items.filter fun item => !isName item).map (placed subject) ∧
      relationshipFindings sentence v = (items.filter isName).map (placed subject) ∧
      (attributeFindings v ++ relationshipFindings sentence v).Perm
        (items.map (placed subject)) ∧
      ∀ item ∈ items,
        if isName item then
          nameRuns item = [item] ∧ (∃ c ∈ (extract text).classes, c.name = nameText item) ∧
            ⟨nameText subject, nameText item, .composition, ""⟩ ∈ (extract text).relationships
        else ∃ c ∈ (extract text).classes, c.name = nameText subject ∧
          nameText item ∈ c.attributes := by
  obtain ⟨left, hlist⟩ := exists_coordinated v.after
  have hattributes := attributeFindings_eq_placed hverb hbase hsubject
  have hrelationships := relationshipFindings_eq_placed hverb hbase hsubject sentence hnext
  have hnames : nameRuns (tagSentence sentence) =
      nameRuns v.before.reverse ++ ((objectItems v.after).flatMap nameRuns ++ nameRuns left) := by
    have hnone := not_isProperNoun_of_tag hverb (by decide)
    have hapart : BeginsApart (v.token :: v.after) := by
      intro t ht
      rw [List.head?_cons, Option.mem_some_iff] at ht
      exact ht ▸ hnone
    rw [← eq_of_mem_views hv, nameRuns_append_of_beginsApart _ hapart, nameRuns_cons_of_not hnone,
      hlist.nameRuns_eq]
  have hfound {f : Finding} (hf : f ∈ attributeFindings v ∨ f ∈ relationshipFindings sentence v) :
      f ∈ findings text := by
    refine mem_findings_of_sentence hsentence ?_
    rcases hf with hf | hf
    · refine List.mem_append_left _ (List.mem_append_left _ (List.mem_append_right _ ?_))
      exact List.mem_flatMap.mpr ⟨v, hv, hf⟩
    · exact List.mem_append_right _ (List.mem_flatMap.mpr ⟨v, hv, hf⟩)
  refine ⟨objectItems v.after, left, hlist, hnames, hattributes, hrelationships, ?_,
    fun item hitem => ?_⟩
  · -- a filter and its complement part the items between them
    rw [hattributes, hrelationships, ← List.map_append]
    refine List.Perm.map _ (List.perm_append_comm.trans ?_)
    exact List.filter_append_perm isName (objectItems v.after)
  · split_ifs with hname
    · have hsingle := nameRuns_eq_singleton (hlist.standsApart item hitem).2 hname
      have hrun : item ∈ nameRuns (tagSentence sentence) := by
        rw [hnames]
        refine List.mem_append_right _ (List.mem_append_left _ ?_)
        exact List.mem_flatMap.mpr ⟨item, hitem, hsingle ▸ List.mem_singleton_self item⟩
      refine ⟨hsingle, exists_class_of_mem_nameRuns hsentence hrun,
        mem_extract_of_composition (hfound (.inr ?_))⟩
      rw [hrelationships]
      refine List.mem_map.mpr ⟨item, List.mem_filter.mpr ⟨hitem, hname⟩, ?_⟩
      rw [placed, if_pos hname]
    · refine exists_attribute_iff.mpr (hfound (.inl ?_))
      rw [hattributes]
      refine List.mem_map.mpr ⟨item, List.mem_filter.mpr ⟨hitem, by simpa using hname⟩, ?_⟩
      rw [placed, if_neg hname]

/-- A name between two attributes, the last of which holds a name that is no item of its own. -/
theorem library_objects_go_to_one_place :
    ∃ v ∈ views (tagSentence "The Library also has new books, Members, and a Rare Book shelf".toList),
      ∃ subject, subject? v.before = some subject ∧ ∃ items left, Coordinated v.after items left ∧
        items.map (placed subject) = [.attribute "Library" "books",
          .related ⟨"Library", "Members", .composition, ""⟩,
          .attribute "Library" "Rare Book shelf"] ∧
        (attributeFindings v ++ relationshipFindings
          "The Library also has new books, Members, and a Rare Book shelf".toList v).Perm
            (items.map (placed subject)) := by
  obtain ⟨v, hv, hverb, hbase, hsome, hnext, hplaced⟩ : ∃ v ∈ views (tagSentence
      "The Library also has new books, Members, and a Rare Book shelf".toList),
      v.token.tag = .verb ∧ String.ofList v.token.base ∈ attributeVerbs ∧
        (subject? v.before).isSome ∧ (∀ t ∈ v.after.head?, t.tag ≠ .preposition) ∧
        (objectItems v.after).map (placed ((subject? v.before).getD [])) =
          [.attribute "Library" "books", .related ⟨"Library", "Members", .composition, ""⟩,
            .attribute "Library" "Rare Book shelf"] := by
    decide +kernel
  obtain ⟨subject, hsubject⟩ := Option.isSome_iff_exists.mp hsome
  have hsentence : "The Library also has new books, Members, and a Rare Book shelf".toList ∈
      proseSentences "The Library also has new books, Members, and a Rare Book shelf" := by
    decide +kernel
  obtain ⟨items, left, hlist, -, -, -, hperm, -⟩ :=
    objects_go_to_one_place hsentence hv hverb hbase hsubject hnext
  refine ⟨v, hv, subject, hsubject, items, left, hlist, ?_, hperm⟩
  rw [hsubject, Option.getD_some, hlist.objectItems_eq] at hplaced
  exact hplaced

end Draftsman.Extraction
