/-
Drafts of one sentence in two spacings.

All that a sentence says is read off its words, except for one thing: the kind of an association is
refined by the quantifiers that the sentence as it is written holds. So a sentence with the same
words has the same draft but for the kinds of its associations (`sentenceFindings_restated`), and
each of these is what the quantifiers of that sentence make of it (`restated`). Whether two
relationships are told apart does not depend on the spacing, so none is lost in the one draft that
is kept in the other (`Stated.key_eq_iff`). Spacing that the search for quantifiers does not see
makes no difference at all; two spaces within a name do.
-/
import Draftsman.Proofs.Extraction.PlainWords
import Draftsman.Proofs.Extraction.Recorded
import Draftsman.Proofs.Extraction.SpacedSearch
import Draftsman.Proofs.Prose.Marks

set_option autoImplicit false

namespace Draftsman.Extraction

open Draftsman.Text Draftsman.Prose

/-! ## Texts of one sentence -/

/-- A text of one line that is one sentence, without a character that may follow a label. -/
structure OneSentence (text : String) (s : List Char) : Prop where
  exists_line : ∃ line, lines text.toList = [line] ∧ (∀ c ∈ line, c ∉ separators) ∧
    sentences line = [s]

section Text

variable {text : String} {s : List Char} (h : OneSentence text s)
include h

/-- Neither the end of the line nor the blanks around the sentence are words. -/
theorem OneSentence.tokenize_eq : tokenize text.toList = tokenize s := by
  obtain ⟨line, hline, -, hsentence⟩ := h.exists_line
  obtain ⟨ending, htext, hending⟩ := exists_lineEnd_of_lines hline
  have hblanks : ∀ c ∈ ending, isBlank c = true := by
    intro c hc
    rcases hending c hc with rfl | rfl
    · decide
    · decide
  calc tokenize text.toList
      = tokenize line := by rw [htext, tokenize, scanWords_append_blanks hblanks]; rfl
    _ = tokenize s := by rw [← flatMap_tokenize_sentences, hsentence, List.flatMap_singleton]

/-- The draft of such a text is that of its sentence. -/
theorem OneSentence.extract_eq : extract text = (sentenceFindings s).foldl record .empty := by
  obtain ⟨line, hline, hseparator, hsentence⟩ := h.exists_line
  have hfindings : lineFindings line = sentenceFindings s := by
    rw [lineFindings_eq, classify, labelled?_eq_none hseparator]
    dsimp only
    rw [hsentence, List.flatMap_singleton]
  rw [extract, findings, hline, List.flatMap_singleton, hfindings]

end Text

/-! ## Kinds of associations -/

/-- The kind of an association between two names in a sentence: what quantifiers state, or else
what the number of the second name does. -/
def associationKind (s : List Char) (source target : String) : RelationshipKind :=
  (multiplicity? s source.toList target.toList).getD
    (if (words target.toList).getLast?.any fun w => isPlural (lowerChars w) then .oneToMany
      else .association)

/-- A relationship with the kind that a sentence gives it: only an association, which is one with a
label, changes. -/
def restated (s : List Char) (r : Relationship) : Relationship :=
  if r.label = "" then r else { r with kind := associationKind s r.source r.target }

theorem associationKind_mem_labelledKinds (s : List Char) (source target : String) :
    associationKind s source target ∈ labelledKinds := by
  unfold associationKind
  cases hmultiplicity : multiplicity? s source.toList target.toList with
  | some kind => exact multiplicity?_mem_labelledKinds hmultiplicity
  | none =>
    rw [Option.getD_none]
    split_ifs <;> decide

/-- What a verb states, with the words of the second name looked up in its text. -/
theorem relationshipOf_eq_associationKind (s : List Char) (verb : Token) (subject : List Token)
    {object : List Token} (hobject : ∀ t ∈ object, t.WellFormed ∧ t.Inflected) :
    relationshipOf s verb subject object =
      if inVocabulary inheritanceVerbs verb then
        ⟨nameText subject, nameText object, .inheritance, ""⟩
      else if inVocabulary compositionVerbs verb then
        ⟨nameText subject, nameText object, .composition, ""⟩
      else ⟨nameText subject, nameText object,
        associationKind s (nameText subject) (nameText object), String.ofList verb.base⟩ := by
  have hplural : ((words (joinWords object)).getLast?.any fun w => isPlural (lowerChars w)) =
      object.getLast?.any fun t => isPlural t.lower := by
    rw [joinWords, words_intercalate (solid_of_mem_map_text fun t ht => (hobject t ht).1),
      List.getLast?_map, Option.any_map]
    cases hlast : object.getLast? with
    | none => rfl
    | some t =>
      have hlower := (hobject t (List.mem_of_getLast? hlast)).2.lower
      show isPlural (lowerChars t.text) = isPlural t.lower
      rw [hlower]
  rw [relationshipOf, associationKind, nameText, nameText, String.toList_ofList,
    String.toList_ofList, hplural]
  cases multiplicity? s (joinWords subject) (joinWords object) with
  | none => rfl
  | some kind => rfl

theorem restated_relationshipOf (s s' : List Char) {verb : Token} (hverb : verb.WellFormed)
    (subject : List Token) {object : List Token}
    (hobject : ∀ t ∈ object, t.WellFormed ∧ t.Inflected) :
    restated s' (relationshipOf s verb subject object) = relationshipOf s' verb subject object := by
  have hlabel : String.ofList verb.base ≠ "" := by
    intro hempty
    refine hverb.base.ne_nil ?_
    rw [← String.toList_ofList (l := verb.base), hempty, String.toList_empty]
  rw [relationshipOf_eq_associationKind s verb subject hobject,
    relationshipOf_eq_associationKind s' verb subject hobject]
  split_ifs
  · rfl
  · rfl
  · rw [restated, if_neg hlabel]

/-! ## What is said, and how -/

/-- A finding with the kinds that a sentence gives to associations. -/
def Finding.restated (s : List Char) : Finding → Finding
  | .related r => .related (Extraction.restated s r)
  | f => f

theorem relationshipFindings_restated {s s' : List Char} {v : View}
    (hv : v ∈ views (tagSentence s)) :
    relationshipFindings s' v = (relationshipFindings s v).map (Finding.restated s') := by
  unfold relationshipFindings
  split_ifs
  · cases subject? v.before with
    | none => rfl
    | some subject =>
      rw [List.map_map]
      refine List.map_congr_left fun object hobject => ?_
      have hobject : ∀ t ∈ object, t.WellFormed ∧ t.Inflected := by
        intro t ht
        have hmem := subset_of_mem_objectItems (List.mem_of_mem_filter hobject) ht
        have htagged := mem_of_mem_after hv ((List.dropWhile_suffix _).subset hmem)
        exact ⟨wellFormed_of_mem_tagSentence htagged, (inflected_of_mem_tagSentence htagged).1⟩
      have hverb := wellFormed_of_mem_tagSentence (token_mem hv)
      exact congrArg Finding.related (restated_relationshipOf s s' hverb subject hobject).symm
  · rfl

/-- **Sentences with the same words say the same, but for the kinds of associations.** -/
theorem sentenceFindings_restated {s s' : List Char} (hwords : tokenize s' = tokenize s) :
    sentenceFindings s' = (sentenceFindings s).map (Finding.restated s') := by
  have htokens : tagSentence s' = tagSentence s := congrArg tag hwords
  have hunchanged {fs : List Finding} (hfs : ∀ f ∈ fs, f.restated s' = f) :
      fs.map (Finding.restated s') = fs := (List.map_congr_left hfs).trans (List.map_id fs)
  unfold sentenceFindings
  rw [htokens]
  dsimp only
  rw [List.map_append, List.map_append, List.map_append]
  refine congrArg₂ _ (congrArg₂ _ (congrArg₂ _ (hunchanged ?_).symm (hunchanged ?_).symm)
    (hunchanged ?_).symm) ?_
  · intro f hf
    obtain ⟨run, -, rfl⟩ := List.mem_map.mp hf
    rfl
  · intro f hf
    obtain ⟨v, hv, hf⟩ := List.mem_flatMap.mp hf
    obtain ⟨_, _, _, _, _, rfl⟩ := exists_of_mem_attributeFindings hv hf
    rfl
  · intro f hf
    obtain ⟨v, hv, hf⟩ := List.mem_flatMap.mp hf
    obtain ⟨_, _, _, _, rfl⟩ := exists_of_mem_methodFindings hv hf
    rfl
  · rw [List.map_flatMap]
    exact List.flatMap_congr fun v hv => relationshipFindings_restated hv

/-! ## What is drafted -/

/-- Associations make no class, so their kinds do not matter to the classes. -/
theorem classes_foldl_record_restated (s : List Char) (fs : List Finding) {m n : ClassModel}
    (hclasses : m.classes = n.classes) :
    ((fs.map (Finding.restated s)).foldl record m).classes = (fs.foldl record n).classes := by
  induction fs generalizing m n with
  | nil => exact hclasses
  | cons f fs ih =>
    rw [List.map_cons, List.foldl_cons, List.foldl_cons]
    refine ih ?_
    have hupdate (name : String) (change : ClassEntry → ClassEntry) :
        (m.update name change).classes = (n.update name change).classes :=
      congrArg (ClassModel.updateIn name change) hclasses
    match f with
    | .named name => exact hupdate name id
    | .attribute owner item => exact hupdate owner (·.addAttribute item)
    | .method owner item => exact hupdate owner (·.addMethod item)
    | .related r =>
      show (m.addRelationship (restated s r)).classes = (n.addRelationship r).classes
      rw [addRelationship_eq, addRelationship_eq]
      exact hclasses

theorem flatMap_relationships_restated (s : List Char) (fs : List Finding) :
    (fs.map (Finding.restated s)).flatMap Finding.relationships =
      (fs.flatMap Finding.relationships).map (restated s) := by
  rw [List.flatMap_map, List.map_flatMap]
  refine List.flatMap_congr fun f _ => ?_
  match f with
  | .related r => rfl
  | .named _ => rfl
  | .attribute _ _ => rfl
  | .method _ _ => rfl

/-! ### Which relationships are told apart -/

/-- A relationship as a sentence states it: without a label, and then no association, or with one,
and then of the kind that the sentence gives it. -/
def Stated (s : List Char) (r : Relationship) : Prop :=
  (r.label = "" ∧ r.kind ∉ labelledKinds) ∨
    (r.label ≠ "" ∧ r.kind = associationKind s r.source r.target)

theorem Stated.restated {s : List Char} {r : Relationship} (h : Stated s r) (s' : List Char) :
    Stated s' (restated s' r) := by
  unfold Extraction.restated
  split_ifs with hlabel
  · exact .inl (h.resolve_right fun h => h.1 hlabel)
  · exact .inr ⟨hlabel, rfl⟩

/-- To be stated again is to be stated as at first. -/
theorem Stated.restated_restated {s : List Char} {r : Relationship} (h : Stated s r)
    (s' : List Char) : Extraction.restated s (Extraction.restated s' r) = r := by
  unfold Extraction.restated
  by_cases hlabel : r.label = ""
  · rw [if_pos hlabel, if_pos hlabel]
  · have hkind := (h.resolve_left fun h => hlabel h.1).2
    rw [if_neg hlabel, if_neg hlabel, ← hkind]

/-- What looks the same in one sentence does so in any other. -/
theorem Stated.key_eq {s : List Char} {r q : Relationship} (hr : Stated s r) (hq : Stated s q)
    (hkey : r.key = q.key) (s' : List Char) :
    (Extraction.restated s' r).key = (Extraction.restated s' q).key := by
  simp only [Relationship.key, Prod.mk.injEq] at hkey
  obtain ⟨hsource, htarget, hkind⟩ := hkey
  -- the kind tells whether there is a label
  have hlabel {r q : Relationship} (hr : Stated s r) (hq : Stated s q) (hkind : r.kind = q.kind)
      (hempty : r.label = "") : q.label = "" := by
    by_contra hne
    have hunlabelled := (hr.resolve_right fun h => h.1 hempty).2
    rw [hkind, (hq.resolve_left fun h => hne h.1).2] at hunlabelled
    exact hunlabelled (associationKind_mem_labelledKinds s q.source q.target)
  unfold Extraction.restated
  by_cases hempty : r.label = ""
  · rw [if_pos hempty, if_pos (hlabel hr hq hkind hempty), Relationship.key, hsource, htarget,
      hkind]
    rfl
  · rw [if_neg hempty, if_neg fun h => hempty (hlabel hq hr hkind.symm h)]
    simp only [Relationship.key, hsource, htarget]

/-- **Relationships are told apart in one spacing exactly if they are in the other.** -/
theorem Stated.key_eq_iff {s : List Char} {r q : Relationship} (hr : Stated s r) (hq : Stated s q)
    (s' : List Char) :
    (Extraction.restated s' r).key = (Extraction.restated s' q).key ↔ r.key = q.key := by
  refine ⟨fun hkey => ?_, fun hkey => hr.key_eq hq hkey s'⟩
  have hback := (hr.restated s').key_eq (hq.restated s') hkey s
  rwa [hr.restated_restated, hq.restated_restated] at hback

/-! ### The relationships of a sentence -/

theorem stated_relationshipOf (s : List Char) {verb : Token} (hverb : verb.WellFormed)
    (subject : List Token) {object : List Token}
    (hobject : ∀ t ∈ object, t.WellFormed ∧ t.Inflected) :
    Stated s (relationshipOf s verb subject object) := by
  have hlabel : String.ofList verb.base ≠ "" := by
    intro hempty
    refine hverb.base.ne_nil ?_
    rw [← String.toList_ofList (l := verb.base), hempty, String.toList_empty]
  rw [relationshipOf_eq_associationKind s verb subject hobject]
  split_ifs
  · exact .inl ⟨rfl, show RelationshipKind.inheritance ∉ labelledKinds by decide⟩
  · exact .inl ⟨rfl, show RelationshipKind.composition ∉ labelledKinds by decide⟩
  · exact .inr ⟨hlabel, rfl⟩

/-- A relationship of a sentence leads from a name of it to a name of it. -/
theorem exists_of_mem_relationships {s : List Char} {r : Relationship}
    (h : r ∈ (sentenceFindings s).flatMap Finding.relationships) :
    ∃ verb ∈ tagSentence s, ∃ subject ∈ nameRuns (tagSentence s),
      ∃ object ∈ nameRuns (tagSentence s), r = relationshipOf s verb subject object := by
  obtain ⟨f, hf, hr⟩ := List.mem_flatMap.mp h
  unfold sentenceFindings at hf
  simp only [List.mem_append, List.mem_map, List.mem_flatMap] at hf
  rcases hf with ((⟨run, -, rfl⟩ | ⟨v, hv, hf⟩) | ⟨v, hv, hf⟩) | ⟨v, hv, hf⟩
  · exact absurd hr List.not_mem_nil
  · obtain ⟨_, _, _, _, _, rfl⟩ := exists_of_mem_attributeFindings hv hf
    exact absurd hr List.not_mem_nil
  · obtain ⟨_, _, _, _, rfl⟩ := exists_of_mem_methodFindings hv hf
    exact absurd hr List.not_mem_nil
  · obtain ⟨subject, hsubject, object, hobject, rfl⟩ := exists_of_mem_relationshipFindings hv hf
    exact ⟨v.token, token_mem hv, subject, hsubject, object, hobject, List.mem_singleton.mp hr⟩

theorem forms_of_mem_nameRuns {s : List Char} {run : List Token}
    (h : run ∈ nameRuns (tagSentence s)) : ∀ t ∈ run, t.WellFormed ∧ t.Inflected := by
  intro t ht
  have htagged := (forall_mem_nameRuns h t ht).1
  exact ⟨wellFormed_of_mem_tagSentence htagged, (inflected_of_mem_tagSentence htagged).1⟩

theorem relationships_foldl_restated (s s' : List Char) :
    (((sentenceFindings s).map (Finding.restated s')).foldl record .empty).relationships =
      (((sentenceFindings s).foldl record .empty).relationships).map (restated s') := by
  have hstated : ∀ r ∈ (sentenceFindings s).flatMap Finding.relationships, Stated s r := by
    intro r hr
    obtain ⟨verb, hverb, subject, -, object, hobject, rfl⟩ := exists_of_mem_relationships hr
    exact stated_relationshipOf s (wellFormed_of_mem_tagSentence hverb) subject
      (forms_of_mem_nameRuns hobject)
  rw [relationships_foldl_record_eq, relationships_foldl_record_eq, flatMap_relationships_restated]
  show addAll Relationship.key (([] : List Relationship).map (restated s')) _ = _
  exact addAll_map_of_key_iff fun r hr q hq => (hstated r hr).key_eq_iff (hstated q hq) s'

/-! ## Spacing and names -/

/-- The neighbouring words of the names of a sentence. -/
def neighbours (s : List Char) : List (List Char × List Char) :=
  (nameRuns (tagSentence s)).flatMap fun run =>
    (run.map Token.text).zip (run.map Token.text).tail

theorem isPhrase_of_mem_nameRuns {s : List Char} {run : List Token}
    (h : run ∈ nameRuns (tagSentence s)) : IsPhrase (neighbours s) (joinWords run) := by
  have hwords : ∀ w ∈ run.map Token.text, OneWord w := by
    intro w hw
    obtain ⟨t, ht, rfl⟩ := List.mem_map.mp hw
    obtain ⟨htagged, hproper⟩ := forall_mem_nameRuns h t ht
    refine ⟨(wellFormed_of_mem_tagSentence htagged).text.ne_nil, ?_⟩
    have hinflected := inflected_of_mem_tagSentence htagged
    refine (not_isBreak_or_of_mem_tokenize hinflected.2).resolve_right ?_
    rw [any_isAlphanumeric_of_isProperNoun htagged hproper]
    exact Bool.noConfusion
  obtain ⟨t, rest, rfl⟩ := List.exists_cons_of_ne_nil (ne_nil_of_mem_nameRuns h)
  exact ⟨t.text, rest.map Token.text, rfl, hwords,
    fun pair hpair => List.mem_flatMap.mpr ⟨t :: rest, h, hpair⟩⟩

/-- **Sentences that are spaced alike say the same.** -/
theorem map_restated_eq_self {s s' : List Char} (halike : SpacedAlike (neighbours s) [] s s') :
    (sentenceFindings s).map (Finding.restated s') = sentenceFindings s := by
  refine (List.map_congr_left fun f hf => ?_).trans (List.map_id _)
  match f, hf with
  | .related r, hf =>
    obtain ⟨verb, hverb, subject, hsubject, object, hobject, rfl⟩ :=
      exists_of_mem_relationships (List.mem_flatMap.mpr ⟨_, hf, List.mem_singleton_self r⟩)
    refine congrArg Finding.related ?_
    rw [restated_relationshipOf s s' (wellFormed_of_mem_tagSentence hverb) subject
      (forms_of_mem_nameRuns hobject), relationshipOf, relationshipOf,
      multiplicity?_eq (isPhrase_of_mem_nameRuns hsubject) (isPhrase_of_mem_nameRuns hobject)
        halike]
  | .named _, _ => rfl
  | .attribute _ _, _ => rfl
  | .method _ _, _ => rfl

/-! ## Drafts -/

/-- **How much the spacing of a sentence matters.** Two texts of one sentence each, with the same
words, have the same classes and relate the same classes in the same way and order, with the same
labels; only the kind of an association is what the quantifiers make of it that the sentence as it
is written holds. So the drafts are the same exactly if no association changes, and they are if the
two sentences are spaced alike: the same characters are written together, and between two words of
a name there is a single space in both or in neither. -/
theorem extract_respaced {text text' : String} {s s' : List Char} (h : OneSentence text s)
    (h' : OneSentence text' s') (hwords : tokenize text'.toList = tokenize text.toList) :
    (extract text').classes = (extract text).classes ∧
      (extract text').relationships = (extract text).relationships.map (restated s') ∧
      (extract text' = extract text ↔
        ∀ r ∈ (extract text).relationships, restated s' r = r) ∧
      (SpacedAlike (neighbours s) [] s s' → extract text' = extract text) := by
  rw [h.tokenize_eq, h'.tokenize_eq] at hwords
  have hfindings := sentenceFindings_restated hwords
  have hclasses : (extract text').classes = (extract text).classes := by
    rw [h.extract_eq, h'.extract_eq, hfindings]
    exact classes_foldl_record_restated s' _ rfl
  have hrelationships :
      (extract text').relationships = (extract text).relationships.map (restated s') := by
    rw [h.extract_eq, h'.extract_eq, hfindings]
    exact relationships_foldl_restated s s'
  have hiff : extract text' = extract text ↔
      ∀ r ∈ (extract text).relationships, restated s' r = r := by
    constructor
    · intro hsame
      rw [hsame] at hrelationships
      exact List.map_inj_left.mp (hrelationships.symm.trans (List.map_id _).symm)
    · intro hkept
      rw [(List.map_congr_left hkept).trans (List.map_id _)] at hrelationships
      exact congrArg₂ ClassModel.mk hclasses hrelationships
  refine ⟨hclasses, hrelationships, hiff, fun halike => ?_⟩
  rw [h.extract_eq, h'.extract_eq, hfindings, map_restated_eq_self halike]

/-- Blanks between words that are no name, next to a full stop and at the end of the line may be
more or fewer. -/
theorem extract_respaced_of_alike :
    OneSentence "Many Big Customers place many Orders."
        "Many Big Customers place many Orders.".toList ∧
      OneSentence " Many   Big Customers\tplace many  Orders .\n"
        "Many   Big Customers\tplace many  Orders .".toList ∧
      extract " Many   Big Customers\tplace many  Orders .\n" =
        extract "Many Big Customers place many Orders." := by
  have h : OneSentence "Many Big Customers place many Orders."
      "Many Big Customers place many Orders.".toList :=
    ⟨"Many Big Customers place many Orders.".toList,
      by decide +kernel, forall_mem_of_all (by decide +kernel), by decide +kernel⟩
  have h' : OneSentence " Many   Big Customers\tplace many  Orders .\n"
      "Many   Big Customers\tplace many  Orders .".toList :=
    ⟨" Many   Big Customers\tplace many  Orders .".toList,
      by decide +kernel, forall_mem_of_all (by decide +kernel), by decide +kernel⟩
  exact ⟨h, h', (extract_respaced h h' (by decide +kernel)).2.2.2 (by decide +kernel)⟩

/-- Two spaces between the words of a name hide it from the quantifiers. -/
theorem double_space_hides_name :
    OneSentence "Many Big Customers place many Orders."
        "Many Big Customers place many Orders.".toList ∧
      OneSentence "Many Big  Customers place many Orders."
        "Many Big  Customers place many Orders.".toList ∧
      tokenize "Many Big  Customers place many Orders.".toList =
        tokenize "Many Big Customers place many Orders.".toList ∧
      extract "Many Big  Customers place many Orders." ≠
        extract "Many Big Customers place many Orders." ∧
      (extract "Many Big Customers place many Orders.").relationships =
        [⟨"Big Customers", "Orders", .manyToMany, "place"⟩] ∧
      (extract "Many Big  Customers place many Orders.").relationships =
        [⟨"Big Customers", "Orders", .oneToMany, "place"⟩] := by
  have hsingle : (extract "Many Big Customers place many Orders.").relationships =
      [⟨"Big Customers", "Orders", .manyToMany, "place"⟩] := by decide +kernel
  have hdouble : (extract "Many Big  Customers place many Orders.").relationships =
      [⟨"Big Customers", "Orders", .oneToMany, "place"⟩] := by decide +kernel
  refine ⟨⟨"Many Big Customers place many Orders.".toList,
      by decide +kernel, forall_mem_of_all (by decide +kernel), by decide +kernel⟩,
    ⟨"Many Big  Customers place many Orders.".toList,
      by decide +kernel, forall_mem_of_all (by decide +kernel), by decide +kernel⟩,
    by decide +kernel, fun hsame => ?_, hsingle, hdouble⟩
  rw [hsame, hsingle] at hdouble
  exact absurd hdouble (by decide)

end Draftsman.Extraction
