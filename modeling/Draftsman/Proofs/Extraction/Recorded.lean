/-
What a draft holds, finding by finding.

A finding that is recorded stays: later ones put their own names, items and relationships behind
it, or nothing where that is there already. So the attributes and methods of a class are those that
some finding gives to its name (`exists_attribute_iff`, `exists_method_iff`), and no relationship
is lost but to one of the same kind between the same classes (`exists_relationship`). What a
sentence of a text says is among the findings of the text, and methods come from nowhere else.
-/
import Draftsman.Proofs.Extraction.Appending

set_option autoImplicit false

namespace Draftsman

/-! ## Classes by their names -/

theorem ClassModel.name_entry (m : ClassModel) (name : String) : (m.entry name).name = name := by
  rw [ClassModel.entry, entryIn]
  cases hfind : m.classes.find? (fun c => c.name == name) with
  | none => rfl
  | some c => simpa using List.find?_some hfind

/-- What no class has of which only the name is known can be asked of the class of a name, or of
the classes of that name. -/
theorem ClassModel.exists_class_iff {m : ClassModel} (hnodup : m.names.Nodup) {name : String}
    {P : ClassEntry → Prop} (hP : ¬P (.named name)) :
    (∃ c ∈ m.classes, c.name = name ∧ P c) ↔ P (m.entry name) := by
  have hclasses : m.names.map m.entry = m.classes := eq_map_entryIn hnodup
  constructor
  · rintro ⟨c, hc, rfl, hPc⟩
    rw [← hclasses] at hc
    obtain ⟨other, -, rfl⟩ := List.mem_map.mp hc
    rwa [m.name_entry]
  · intro hentry
    by_cases hname : name ∈ m.names
    · exact ⟨m.entry name, hclasses ▸ List.mem_map_of_mem hname, m.name_entry name, hentry⟩
    · rw [ClassModel.entry, entryIn_of_not_mem hname] at hentry
      exact absurd hentry hP

namespace Extraction

open Draftsman.Text Draftsman.Prose

/-! ## Folds of findings -/

theorem entry_foldl_record_eq (m : ClassModel) (fs : List Finding) (name : String) :
    (fs.foldl record m).entry name =
      ⟨(m.entry name).name,
        addAll id (m.entry name).attributes (fs.flatMap fun f => (f.part name).attributes),
        addAll id (m.entry name).methods (fs.flatMap fun f => (f.part name).methods)⟩ := by
  induction fs generalizing m with
  | nil => rfl
  | cons f fs ih =>
    rw [List.foldl_cons, ih, entry_record, List.flatMap_cons, List.flatMap_cons, addAll_append,
      addAll_append]
    rfl

theorem relationships_foldl_record_eq (m : ClassModel) (fs : List Finding) :
    (fs.foldl record m).relationships =
      addAll Relationship.key m.relationships (fs.flatMap Finding.relationships) := by
  induction fs generalizing m with
  | nil => rfl
  | cons f fs ih => rw [List.foldl_cons, ih, relationships_record, List.flatMap_cons, addAll_append]

theorem mem_part_attributes {name item : String} {f : Finding} :
    item ∈ (f.part name).attributes ↔ f = .attribute name item := by
  match f with
  | .attribute owner listed =>
    rw [Finding.part, Finding.attribute.injEq]
    by_cases howner : owner = name
    · rw [if_pos howner, List.mem_singleton, eq_comm (a := listed), and_iff_right howner]
    · rw [if_neg howner]
      exact iff_of_false List.not_mem_nil fun h => howner h.1
  | .named _ => exact iff_of_false List.not_mem_nil (by simp)
  | .method _ _ => exact iff_of_false List.not_mem_nil (by simp)
  | .related _ => exact iff_of_false List.not_mem_nil (by simp)

theorem mem_part_methods {name item : String} {f : Finding} :
    item ∈ (f.part name).methods ↔ f = .method name item := by
  match f with
  | .method owner granted =>
    rw [Finding.part, Finding.method.injEq]
    by_cases howner : owner = name
    · rw [if_pos howner, List.mem_singleton, eq_comm (a := granted), and_iff_right howner]
    · rw [if_neg howner]
      exact iff_of_false List.not_mem_nil fun h => howner h.1
  | .named _ => exact iff_of_false List.not_mem_nil (by simp)
  | .attribute _ _ => exact iff_of_false List.not_mem_nil (by simp)
  | .related _ => exact iff_of_false List.not_mem_nil (by simp)

/-! ## Drafts -/

theorem mem_addAll_id {items more : List String} {a : String} :
    a ∈ addAll id items more ↔ a ∈ items ∨ a ∈ more := by
  have h : a ∈ (addAll id items more).map id ↔ a ∈ items.map id ∨ a ∈ more.map id :=
    mem_map_addAll
  rwa [List.map_id, List.map_id, List.map_id] at h

/-- **The attributes of a class are those that some finding gives it.** -/
theorem exists_attribute_iff {text owner item : String} :
    (∃ c ∈ (extract text).classes, c.name = owner ∧ item ∈ c.attributes) ↔
      .attribute owner item ∈ findings text := by
  have hnone : item ∉ (ClassModel.empty.entry owner).attributes := List.not_mem_nil
  rw [ClassModel.exists_class_iff (P := fun c => item ∈ c.attributes)
    (wellFormed_extract text).names_nodup List.not_mem_nil, extract, entry_foldl_record_eq,
    mem_addAll_id, or_iff_right hnone, List.mem_flatMap]
  simp only [mem_part_attributes, exists_eq_right]

/-- **The methods of a class are those that some finding gives it.** -/
theorem exists_method_iff {text owner item : String} :
    (∃ c ∈ (extract text).classes, c.name = owner ∧ item ∈ c.methods) ↔
      .method owner item ∈ findings text := by
  have hnone : item ∉ (ClassModel.empty.entry owner).methods := List.not_mem_nil
  rw [ClassModel.exists_class_iff (P := fun c => item ∈ c.methods)
    (wellFormed_extract text).names_nodup List.not_mem_nil, extract, entry_foldl_record_eq,
    mem_addAll_id, or_iff_right hnone, List.mem_flatMap]
  simp only [mem_part_methods, exists_eq_right]

/-- A relationship that is found is drafted, if perhaps with the label of an earlier one. -/
theorem exists_relationship {text : String} {r : Relationship} (h : .related r ∈ findings text) :
    ∃ q ∈ (extract text).relationships, q.key = r.key := by
  refine List.mem_map.mp ?_
  rw [extract, relationships_foldl_record_eq, mem_map_addAll]
  refine .inr (List.mem_map.mpr ⟨r, List.mem_flatMap.mpr ⟨.related r, h, ?_⟩, rfl⟩)
  exact List.mem_singleton_self r

/-- **A composition that is found is drafted as it is**: none has a label to lose. -/
theorem mem_extract_of_composition {text source target : String}
    (h : .related ⟨source, target, .composition, ""⟩ ∈ findings text) :
    ⟨source, target, .composition, ""⟩ ∈ (extract text).relationships := by
  obtain ⟨⟨source', target', kind, label⟩, hq, hkey⟩ := exists_relationship h
  simp only [Relationship.key, Prod.mk.injEq] at hkey
  obtain ⟨rfl, rfl, rfl⟩ := hkey
  have hlabel := ((wellFormed_extract text).relationships _ hq).label_eq_empty.mpr (.inr rfl)
  exact hlabel ▸ hq

/-! ## Sentences of a text -/

/-- The sentences of a line, if it is prose. -/
def Line.sentences : Line → List (List Char)
  | .attributes _ _ => []
  | .prose text => Prose.sentences text

/-- The sentences of a text: those of its lines that list no attributes. -/
def proseSentences (text : String) : List (List Char) :=
  (lines text.toList).flatMap fun line => (classify line).sentences

theorem lineFindings_eq (line : List Char) :
    lineFindings line = match classify line with
      | .attributes name items => .named (String.ofList name)
          :: items.map fun item => .attribute (String.ofList name) (String.ofList item)
      | .prose text => (Prose.sentences text).flatMap sentenceFindings := rfl

/-- What a sentence of a text says, the text says. -/
theorem mem_findings_of_sentence {text : String} {sentence : List Char}
    (h : sentence ∈ proseSentences text) {f : Finding} (hf : f ∈ sentenceFindings sentence) :
    f ∈ findings text := by
  obtain ⟨line, hline, hsentence⟩ := List.mem_flatMap.mp h
  refine List.mem_flatMap.mpr ⟨line, hline, ?_⟩
  rw [lineFindings_eq]
  cases hclass : classify line with
  | attributes name items =>
    rw [hclass] at hsentence
    exact absurd hsentence List.not_mem_nil
  | prose prose =>
    rw [hclass] at hsentence
    exact List.mem_flatMap.mpr ⟨sentence, hsentence, hf⟩

/-- The names of a sentence are classes of the text. -/
theorem exists_class_of_mem_nameRuns {text : String} {sentence : List Char}
    (h : sentence ∈ proseSentences text) {run : List Token}
    (hrun : run ∈ nameRuns (tagSentence sentence)) :
    ∃ c ∈ (extract text).classes, c.name = nameText run := by
  have hfound : .named (nameText run) ∈ sentenceFindings sentence := by
    refine List.mem_append_left _ (List.mem_append_left _ (List.mem_append_left _ ?_))
    exact List.mem_map_of_mem hrun
  exact List.mem_map.mp (mem_names_foldl_record (mem_findings_of_sentence h hfound) .empty)

/-- Only a sentence gives a class a method. -/
theorem method_mem_findings_iff {text owner item : String} :
    .method owner item ∈ findings text ↔
      ∃ sentence ∈ proseSentences text, .method owner item ∈ sentenceFindings sentence := by
  constructor
  · intro h
    obtain ⟨line, hline, hf⟩ := List.mem_flatMap.mp h
    rw [lineFindings_eq] at hf
    cases hclass : classify line with
    | attributes name items =>
      rw [hclass] at hf
      rcases List.mem_cons.mp hf with hf | hf
      · exact absurd hf (by simp)
      · obtain ⟨listed, -, hlisted⟩ := List.mem_map.mp hf
        exact absurd hlisted (by simp)
    | prose prose =>
      rw [hclass] at hf
      obtain ⟨sentence, hsentence, hf⟩ := List.mem_flatMap.mp hf
      refine ⟨sentence, List.mem_flatMap.mpr ⟨line, hline, ?_⟩, hf⟩
      rw [hclass]
      exact hsentence
  · rintro ⟨sentence, hsentence, hf⟩
    exact mem_findings_of_sentence hsentence hf

end Extraction

end Draftsman
