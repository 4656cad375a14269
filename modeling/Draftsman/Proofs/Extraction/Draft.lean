/-
Drafts are well formed, whatever the text.

A text is read finding by finding, and a finding is well formed if what it names, lists or
relates may stand in a draft. Nearly all of that is a matter of the words themselves. Only a
relationship needs more, that its two classes are known when it is recorded, and they are:
a sentence names every run of its proper nouns before it relates any two of them. One
finding, one sentence, one line and the whole text then keep a diagram well formed, each by
the step before it.
-/
import Draftsman.Extraction.Finding
import Draftsman.Proofs.Diagram.Growth
import Draftsman.Proofs.Extraction.Names
import Draftsman.Proofs.Text.Plain

set_option autoImplicit false

namespace Draftsman.Extraction

open Draftsman.Text Draftsman.Prose

/-! ## Recording -/

/-- A finding that keeps a diagram well formed whose classes have the given names. -/
def Finding.WellFormed (known : List String) : Finding → Prop
  | .named name => IsClassName name
  | .attribute owner item => IsClassName owner ∧ IsName item
  | .method owner item => IsClassName owner ∧ IsMethodName item
  | .related r => r.WellFormed ∧ r.source ∈ known ∧ r.target ∈ known

theorem Finding.WellFormed.mono {known known' : List String} (hsub : known ⊆ known') {f : Finding}
    (h : f.WellFormed known) : f.WellFormed known' := by
  cases f with
  | related r => exact ⟨h.1, hsub h.2.1, hsub h.2.2⟩
  | _ => exact h

/-- One finding keeps a diagram well formed. -/
theorem record_wellFormed {m : ClassModel} (h : m.WellFormed) {f : Finding}
    (hf : f.WellFormed m.names) : (record m f).WellFormed := by
  match f, hf with
  | .named _, hname => exact h.ensure hname
  | .attribute _ _, ⟨howner, hitem⟩ => exact h.addAttribute howner hitem
  | .method _ _, ⟨howner, hitem⟩ => exact h.addMethod howner hitem
  | .related _, ⟨hr, hsource, htarget⟩ => exact h.addRelationship hr hsource htarget

/-- Recording forgets no name. -/
theorem names_subset_record (m : ClassModel) (f : Finding) : m.names ⊆ (record m f).names := by
  have hupdate (name : String) (change : ClassEntry → ClassEntry)
      (hname : ∀ c, (change c).name = c.name) : m.names ⊆ (m.update name change).names := by
    intro a ha
    rw [ClassModel.names_update hname, mem_appendNew]
    exact Or.inl ha
  match f with
  | .named name => exact hupdate name _ fun _ => rfl
  | .attribute owner _ => exact hupdate owner _ fun _ => rfl
  | .method owner _ => exact hupdate owner _ fun _ => rfl
  | .related r =>
    show m.names ⊆ (m.addRelationship r).names
    rw [ClassModel.names_addRelationship]
    exact List.Subset.refl _

theorem names_subset_foldl_record (m : ClassModel) (fs : List Finding) :
    m.names ⊆ (fs.foldl record m).names := by
  induction fs generalizing m with
  | nil => exact List.Subset.refl _
  | cons f fs ih => exact List.Subset.trans (names_subset_record m f) (ih (record m f))

theorem mem_names_foldl_record {name : String} {fs : List Finding} (h : .named name ∈ fs)
    (m : ClassModel) : name ∈ (fs.foldl record m).names := by
  induction fs generalizing m with
  | nil => exact absurd h List.not_mem_nil
  | cons f fs ih =>
    rcases List.mem_cons.mp h with rfl | h
    · refine names_subset_foldl_record (record m (.named name)) fs ?_
      have hkeeps : ∀ c : ClassEntry, (id c).name = c.name := fun _ => rfl
      show name ∈ (m.update name id).names
      rw [ClassModel.names_update hkeeps, mem_appendNew]
      exact Or.inr rfl
    · exact ih h (record m f)

/-- Findings keep a diagram well formed, one after the other. -/
theorem foldl_record_wellFormed {m : ClassModel} (h : m.WellFormed) {fs : List Finding}
    (hfs : ∀ f ∈ fs, f.WellFormed m.names) : (fs.foldl record m).WellFormed := by
  induction fs generalizing m with
  | nil => exact h
  | cons f fs ih =>
    -- the later findings meet a diagram with more names, which does not harm them
    refine ih (record_wellFormed h (hfs f List.mem_cons_self)) fun g hg => ?_
    exact (hfs g (List.mem_cons_of_mem f hg)).mono (names_subset_record m f)

/-! ## Sentences -/

section Sentences

variable {tokens : List Token} (htokens : ∀ t ∈ tokens, t.WellFormed)
include htokens

/-- A run of proper nouns is the name of a class: its words begin with capitals. -/
theorem isClassName_nameText {run : List Token} (h : run ∈ nameRuns tokens) :
    IsClassName (nameText run) := by
  have hrun := forall_mem_nameRuns h
  refine isClassName_of_words ?_ ?_ ?_
  · simpa using ne_nil_of_mem_nameRuns h
  · exact solid_of_mem_map_text fun t ht => htokens t (hrun t ht).1
  · intro w hw
    obtain ⟨t, ht, rfl⟩ := List.mem_map.mp hw
    exact (htokens t (hrun t ht).1).capitalized (hrun t ht).2

/-- An item of a list is a name. -/
theorem isName_nameText {item : List Token} (hne : item ≠ []) (hitem : item ⊆ tokens) :
    IsName (nameText item) := by
  have hitem' : ∀ t ∈ item, t.WellFormed := fun t ht => htokens t (hitem ht)
  refine ⟨fun hempty => ?_, ?_⟩
  · apply joinWords_ne_nil hitem' hne
    rw [← String.toList_ofList (l := joinWords item)]
    exact congrArg String.toList hempty
  · rw [trim_eq_self_iff, nameText, String.toList_ofList]
    exact trimmed_joinWords hitem'

theorem wellFormed_of_mem_attributeFindings {v : View} (hv : v ∈ views tokens) {f : Finding}
    (hf : f ∈ attributeFindings v) (known : List String) : f.WellFormed known := by
  obtain ⟨subject, hsubject, item, hne, hitem, rfl⟩ := exists_of_mem_attributeFindings hv hf
  exact ⟨isClassName_nameText htokens hsubject, isName_nameText htokens hne hitem⟩

theorem wellFormed_of_mem_methodFindings {v : View} (hv : v ∈ views tokens) {f : Finding}
    (hf : f ∈ methodFindings v) (known : List String) : f.WellFormed known := by
  obtain ⟨subject, hsubject, verb, hverb, rfl⟩ := exists_of_mem_methodFindings hv hf
  exact ⟨isClassName_nameText htokens hsubject, verb.base, (htokens verb hverb).base, rfl⟩

end Sentences

/-- The kinds of relationship that carry a label. -/
def labelledKinds : List RelationshipKind := [.association, .oneToMany, .manyToOne, .manyToMany]

theorem multiplicity?_mem_labelledKinds {sentence source target : List Char}
    {kind : RelationshipKind} (h : multiplicity? sentence source target = some kind) :
    kind ∈ labelledKinds := by
  obtain ⟨⟨first, second, k⟩, hmem, h⟩ := List.exists_of_findSome?_eq_some h
  have hkinds : ∀ entry ∈ quantifierPairs, entry.2.2 ∈ labelledKinds := by decide
  dsimp only at h
  split_ifs at h
  exact Option.some.inj h ▸ hkinds _ hmem

/-- A relationship of a kind that carries a label, with the base form of a verb for it. -/
theorem wellFormed_of_mem_labelledKinds {source target : String} {kind : RelationshipKind}
    {verb : List Char} (hkind : kind ∈ labelledKinds) (hverb : Solid verb) :
    (Relationship.mk source target kind (String.ofList verb)).WellFormed := by
  have hlabelled : ∀ k ∈ labelledKinds, k ∈ RelationshipKind.drafted ∧
      ¬(k = .inheritance ∨ k = .composition) := by decide
  refine ⟨(hlabelled kind hkind).1, ?_, ?_⟩
  · refine iff_of_false (fun hempty => hverb.ne_nil ?_) (hlabelled kind hkind).2
    rw [← String.toList_ofList (l := verb)]
    exact congrArg String.toList hempty
  · rw [trim_eq_self_iff, String.toList_ofList]
    exact hverb.trimmed

/-- A relationship of a kind that carries no label. -/
theorem wellFormed_unlabelled (source target : String) {kind : RelationshipKind}
    (hkind : kind = .inheritance ∨ kind = .composition) :
    (Relationship.mk source target kind "").WellFormed := by
  have hdrafted : ∀ k, k = .inheritance ∨ k = .composition → k ∈ RelationshipKind.drafted := by
    rintro k (rfl | rfl)
    · decide
    · decide
  refine ⟨hdrafted kind hkind, iff_of_true rfl hkind, trim_eq_self_iff.mpr (trimmed_of_forall ?_)⟩
  · exact fun c hc => absurd hc List.not_mem_nil

theorem wellFormed_relationshipOf (sentence : List Char) {verb : Token} (hverb : verb.WellFormed)
    (subject object : List Token) : (relationshipOf sentence verb subject object).WellFormed := by
  unfold relationshipOf
  dsimp only
  by_cases hinheritance : inVocabulary inheritanceVerbs verb
  · rw [if_pos hinheritance]
    exact wellFormed_unlabelled _ _ (Or.inl rfl)
  rw [if_neg hinheritance]
  by_cases hcomposition : inVocabulary compositionVerbs verb
  · rw [if_pos hcomposition]
    exact wellFormed_unlabelled _ _ (Or.inr rfl)
  rw [if_neg hcomposition]
  -- all other verbs leave their base form as a label
  refine wellFormed_of_mem_labelledKinds ?_ hverb.base
  split
  · rename_i kind hkind
    exact multiplicity?_mem_labelledKinds hkind
  · split <;> decide

theorem relationshipOf_source (sentence : List Char) (verb : Token) (subject object : List Token) :
    (relationshipOf sentence verb subject object).source = nameText subject := by
  unfold relationshipOf
  dsimp only
  split_ifs <;> rfl

theorem relationshipOf_target (sentence : List Char) (verb : Token) (subject object : List Token) :
    (relationshipOf sentence verb subject object).target = nameText object := by
  unfold relationshipOf
  dsimp only
  split_ifs <;> rfl

theorem relationshipOf_label (sentence : List Char) (verb : Token) (subject object : List Token) :
    (relationshipOf sentence verb subject object).label = "" ∨
      (relationshipOf sentence verb subject object).label = String.ofList verb.base := by
  unfold relationshipOf
  dsimp only
  split_ifs
  · exact .inl rfl
  · exact .inl rfl
  · exact .inr rfl
  · exact .inr rfl

/-- A relationship of a sentence leads between names of the sentence. -/
theorem wellFormed_of_mem_relationshipFindings {sentence : List Char} {tokens : List Token}
    (htokens : ∀ t ∈ tokens, t.WellFormed) {v : View} (hv : v ∈ views tokens) {f : Finding}
    (hf : f ∈ relationshipFindings sentence v) {known : List String}
    (hknown : ∀ run ∈ nameRuns tokens, nameText run ∈ known) : f.WellFormed known := by
  obtain ⟨subject, hsubject, object, hobject, rfl⟩ := exists_of_mem_relationshipFindings hv hf
  refine ⟨wellFormed_relationshipOf sentence (htokens _ (token_mem hv)) subject object, ?_, ?_⟩
  · rw [relationshipOf_source]
    exact hknown subject hsubject
  · rw [relationshipOf_target]
    exact hknown object hobject

/-- **A sentence keeps a diagram well formed.** Its names come first, so the diagram knows
all of them when the first relationship is recorded. -/
theorem foldl_sentenceFindings_wellFormed {m : ClassModel} (h : m.WellFormed)
    (sentence : List Char) : ((sentenceFindings sentence).foldl record m).WellFormed := by
  have htokens : ∀ t ∈ tagSentence sentence, t.WellFormed := fun t ht =>
    wellFormed_of_mem_tagSentence ht
  have hnames : ∀ run ∈ nameRuns (tagSentence sentence), Finding.named (nameText run) ∈
      (nameRuns (tagSentence sentence)).map (fun run => Finding.named (nameText run)) :=
    fun run hrun => List.mem_map_of_mem hrun
  unfold sentenceFindings
  dsimp only
  -- the names in a first run of the fold, and all else in a second one
  rw [List.append_assoc, List.append_assoc, List.foldl_append]
  refine foldl_record_wellFormed (foldl_record_wellFormed h fun f hf => ?_) fun f hf => ?_
  · obtain ⟨run, hrun, rfl⟩ := List.mem_map.mp hf
    exact isClassName_nameText htokens hrun
  · simp only [List.mem_append, List.mem_flatMap] at hf
    rcases hf with ⟨v, hv, hf⟩ | ⟨v, hv, hf⟩ | ⟨v, hv, hf⟩
    · exact wellFormed_of_mem_attributeFindings htokens hv hf _
    · exact wellFormed_of_mem_methodFindings htokens hv hf _
    · refine wellFormed_of_mem_relationshipFindings htokens hv hf fun run hrun => ?_
      exact mem_names_foldl_record (hnames run hrun) m

/-! ## Lists of attributes -/

theorem solid_labelWord {c : Char} (hc : c.isUpper = true) (tail : List Char) :
    Solid (c :: tail.takeWhile isWordMember) := by
  refine ⟨List.cons_ne_nil _ _, fun d hd => ?_⟩
  rcases List.mem_cons.mp hd with rfl | hd
  · exact not_isBlank_of (P := Char.isUpper) (by decide) hc
  · exact not_isBlank_of_isWordMember (List.mem_takeWhile_imp hd)

/-- The words of a label are solid and begin with capitals. -/
theorem forall_mem_capitalWords (cs : List Char) :
    ∀ w ∈ (capitalWords cs).1, Solid w ∧ w.head?.any isUppercase = true := by
  induction cs using capitalWords.induct with
  | case1 =>
    rw [capitalWords]
    exact fun w hw => absurd hw List.not_mem_nil
  | case2 c tail hc rest hmore ih =>
    rw [capitalWords, if_pos hc]
    dsimp only
    rw [if_pos hmore]
    intro w hw
    rcases List.mem_cons.mp hw with rfl | hw
    · exact ⟨solid_labelWord hc tail, isUppercase_of_isUpper hc⟩
    · exact ih w hw
  | case3 c tail hc rest hmore =>
    rw [capitalWords, if_pos hc]
    dsimp only
    rw [if_neg hmore]
    intro w hw
    rw [List.mem_singleton.mp hw]
    exact ⟨solid_labelWord hc tail, isUppercase_of_isUpper hc⟩
  | case4 c tail hc =>
    rw [capitalWords, if_neg hc]
    exact fun w hw => absurd hw List.not_mem_nil

theorem isName_of_mem_listItems {list item : List Char} (h : item ∈ listItems list) :
    IsName (String.ofList item) := by
  obtain ⟨hclean, hne⟩ := List.mem_filter.mp h
  obtain ⟨piece, -, rfl⟩ := List.mem_map.mp hclean
  refine ⟨fun hempty => ?_, ?_⟩
  · have hnil := congrArg String.toList hempty
    rw [String.toList_ofList, String.toList_empty] at hnil
    rw [hnil] at hne
    exact absurd hne (by decide)
  · rw [trim_eq_self_iff, String.toList_ofList]
    exact trimmed_trimChars _

/-- A line that lists attributes begins with the name of a class, and its items are names. -/
theorem isClassName_of_classify {line name : List Char} {items : List (List Char)}
    (h : classify line = .attributes name items) :
    IsClassName (String.ofList name) ∧ ∀ item ∈ items, IsName (String.ofList item) := by
  unfold classify at h
  split at h
  · exact absurd h (by simp)
  · rename_i ws body hlabel
    dsimp only at h
    split_ifs at h
    obtain ⟨rfl, rfl⟩ := Line.attributes.inj h
    refine ⟨?_, fun item hitem => isName_of_mem_listItems hitem⟩
    unfold labelled? at hlabel
    split at hlabel
    · exact absurd hlabel (by simp)
    · rename_i ws' rest hne hwords
      split at hlabel
      · obtain ⟨rfl, rfl⟩ := Prod.mk.inj (Option.some.inj hlabel)
        have hall := forall_mem_capitalWords (dropArticle (dropBullet (trimStart line)))
        rw [hwords] at hall
        refine isClassName_of_words ?_ (fun w hw => (hall w hw).1) (fun w hw => (hall w hw).2)
        rintro rfl
        exact hne rfl
      · exact absurd hlabel (by simp)

/-! ## Lines and texts -/

/-- **A line keeps a diagram well formed.** -/
theorem foldl_lineFindings_wellFormed {m : ClassModel} (h : m.WellFormed) (line : List Char) :
    ((lineFindings line).foldl record m).WellFormed := by
  unfold lineFindings
  split
  · rename_i name items hline
    obtain ⟨hname, hitems⟩ := isClassName_of_classify hline
    refine foldl_record_wellFormed h fun f hf => ?_
    rcases List.mem_cons.mp hf with rfl | hf
    · exact hname
    · obtain ⟨item, hitem, rfl⟩ := List.mem_map.mp hf
      exact ⟨hname, hitems item hitem⟩
  · rename_i text hline
    rw [List.foldl_flatMap]
    exact List.foldlRecOn (sentences text) _ h fun m hm sentence _ =>
      foldl_sentenceFindings_wellFormed hm sentence

/-- The draft of a text is well formed. -/
theorem wellFormed_extract (text : String) : (extract text).WellFormed := by
  -- a fold over the findings of all lines is a fold over the lines
  rw [extract, findings, List.foldl_flatMap]
  exact List.foldlRecOn (lines text.toList) _ ClassModel.wellFormed_empty fun m hm line _ =>
    foldl_lineFindings_wellFormed hm line

/-- **What the draft of any text is like.** Its classes have distinct names, of which every
word begins with a capital; each lists distinct attributes, which are trimmed and not empty,
and distinct methods, each a stem and a pair of parentheses. Its relationships lead between
listed classes, no two of one kind between the same two; their kinds are the six that a
draft can tell apart, and inheritance and composition are those without a label. -/
theorem extract_spec (text : String) :
    ((extract text).classes.map ClassEntry.name).Nodup ∧
    (∀ c ∈ (extract text).classes,
      (c.name ≠ "" ∧
        ∀ w ∈ words c.name.toList, ∃ first rest, w = first :: rest ∧ isUppercase first = true) ∧
      (c.attributes.Nodup ∧ ∀ a ∈ c.attributes, a ≠ "" ∧ trim a = a) ∧
      (c.methods.Nodup ∧ ∀ f ∈ c.methods, ∃ stem, stem ≠ "" ∧ f = stem ++ "()")) ∧
    (∀ r ∈ (extract text).relationships,
      (∃ c ∈ (extract text).classes, c.name = r.source) ∧
      (∃ c ∈ (extract text).classes, c.name = r.target) ∧
      (r.kind = .association ∨ r.kind = .inheritance ∨ r.kind = .composition ∨
        r.kind = .oneToMany ∨ r.kind = .manyToOne ∨ r.kind = .manyToMany) ∧
      (r.label = "" ↔ r.kind = .inheritance ∨ r.kind = .composition)) ∧
    ((extract text).relationships.map fun r => (r.source, r.target, r.kind)).Nodup := by
  have h := wellFormed_extract text
  refine ⟨h.names_nodup, fun c hc => ?_, fun r hr => ?_, h.keys_nodup⟩
  · have hclass := h.classes c hc
    refine ⟨⟨hclass.name.isName.ne_empty, fun w hw => ?_⟩, ⟨hclass.attributes_nodup, fun a ha => ?_⟩,
      ⟨hclass.methods_nodup, fun f hf => ?_⟩⟩
    · obtain ⟨first, hfirst, hcapital⟩ := (Option.any_eq_true _ _).mp (hclass.name.capitalized w hw)
      obtain ⟨rest, hw⟩ := List.head?_eq_some_iff.mp hfirst
      exact ⟨first, rest, hw, hcapital⟩
    · exact ⟨(hclass.attributes a ha).ne_empty, (hclass.attributes a ha).trim_eq⟩
    · obtain ⟨stem, hstem, rfl⟩ := hclass.methods f hf
      refine ⟨String.ofList stem, fun hempty => hstem.ne_nil ?_, rfl⟩
      rw [← String.toList_ofList (l := stem), hempty, String.toList_empty]
  · have hends := h.endpoints r hr
    refine ⟨List.mem_map.mp hends.1, List.mem_map.mp hends.2, ?_,
      (h.relationships r hr).label_eq_empty⟩
    simpa [RelationshipKind.drafted] using (h.relationships r hr).kind

end Draftsman.Extraction
