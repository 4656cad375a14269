/-
Where the strings of a draft come from.

A draft holds the strings of the findings it is made of and no others, and recording one
more finding loses none. A finding that lists an attribute is never dropped either. What a
text can put into its draft is thus settled finding by finding: its lists of
attributes come through as they are, and all else is a label or is found in prose
(`mem_extract_of_listed`, `mem_extract_cases`). Written as JSON, a class diagram adds nothing
but keys.
-/
import Draftsman.Diagram.Encode
import Draftsman.Extraction.Finding
import Draftsman.Proofs.Extraction.Draft
import Draftsman.Proofs.Json.Occurrences

set_option autoImplicit false

namespace Draftsman

/-! ## The strings of a diagram -/

/-- The strings of a class: its name, its attributes and its methods. -/
def ClassEntry.strings (c : ClassEntry) : List String := c.name :: (c.attributes ++ c.methods)

/-- The strings of a relationship: the names of its classes and of its kind, and its label. -/
def Relationship.strings (r : Relationship) : List String :=
  [r.source, r.target, r.kind.name, r.label]

/-- The strings of a class diagram. -/
def ClassModel.strings (m : ClassModel) : List String :=
  m.classes.flatMap ClassEntry.strings ++ m.relationships.flatMap Relationship.strings

/-! ## As JSON -/

/-- The keys of a class diagram as JSON. -/
def ClassModel.keys : List String :=
  ["classes", "relationships", "name", "attributes", "methods", "from", "to", "type", "label"]

theorem Json.strings_texts (items : List String) : (Json.texts items).strings = items := by
  rw [Json.texts, Json.strings_array, List.flatMap_map]
  exact List.flatMap_singleton' items

theorem ClassEntry.mem_strings_toJson {c : ClassEntry} {s : String} :
    s ∈ c.toJson.strings ↔ s ∈ ["name", "attributes", "methods"] ∨ s ∈ c.strings := by
  simp only [ClassEntry.toJson, Json.strings_object, List.flatMap_cons, List.flatMap_nil,
    Json.strings_string, Json.strings_texts, ClassEntry.strings, List.mem_append, List.mem_cons,
    List.not_mem_nil, or_false]
  tauto

theorem Relationship.mem_strings_toJson {r : Relationship} {s : String} :
    s ∈ r.toJson.strings ↔ s ∈ ["from", "to", "type", "label"] ∨ s ∈ r.strings := by
  simp only [Relationship.toJson, Json.strings_object, List.flatMap_cons, List.flatMap_nil,
    Json.strings_string, Relationship.strings, List.mem_append, List.mem_cons, List.not_mem_nil,
    or_false]
  tauto

theorem ClassModel.strings_toJson (m : ClassModel) :
    m.toJson.strings = "classes" :: (m.classes.flatMap fun c => c.toJson.strings) ++
      "relationships" :: (m.relationships.flatMap fun r => r.toJson.strings) := by
  simp only [ClassModel.toJson, Json.strings_object, Json.strings_array, List.flatMap_cons,
    List.flatMap_nil, List.flatMap_map, List.append_nil]

/-- What a class diagram as JSON holds besides its own strings are keys. -/
theorem ClassModel.mem_strings_toJson {m : ClassModel} {s : String} (h : s ∈ m.toJson.strings) :
    s ∈ ClassModel.keys ∨ s ∈ m.strings := by
  have hclass : ["name", "attributes", "methods"] ⊆ ClassModel.keys := by decide
  have hrelationship : ["from", "to", "type", "label"] ⊆ ClassModel.keys := by decide
  rw [ClassModel.strings_toJson, List.mem_append, List.mem_cons, List.mem_cons] at h
  rcases h with (rfl | h) | (rfl | h)
  · exact .inl (by decide)
  · obtain ⟨c, hc, hs⟩ := List.mem_flatMap.mp h
    refine (ClassEntry.mem_strings_toJson.mp hs).imp (fun hs => hclass hs) fun hs => ?_
    exact List.mem_append_left _ (List.mem_flatMap.mpr ⟨c, hc, hs⟩)
  · exact .inl (by decide)
  · obtain ⟨r, hr, hs⟩ := List.mem_flatMap.mp h
    refine (Relationship.mem_strings_toJson.mp hs).imp (fun hs => hrelationship hs) fun hs => ?_
    exact List.mem_append_right _ (List.mem_flatMap.mpr ⟨r, hr, hs⟩)

theorem ClassModel.strings_subset_toJson (m : ClassModel) : m.strings ⊆ m.toJson.strings := by
  intro s hs
  rw [ClassModel.strings_toJson, List.mem_append, List.mem_cons, List.mem_cons]
  rcases List.mem_append.mp hs with hs | hs
  · obtain ⟨c, hc, hs⟩ := List.mem_flatMap.mp hs
    exact .inl (.inr (List.mem_flatMap.mpr ⟨c, hc, ClassEntry.mem_strings_toJson.mpr (.inr hs)⟩))
  · obtain ⟨r, hr, hs⟩ := List.mem_flatMap.mp hs
    exact .inr (.inr (List.mem_flatMap.mpr ⟨r, hr, Relationship.mem_strings_toJson.mpr (.inr hs)⟩))

/-! ## Changes -/

/-- A change of a class that adds the given strings to it and loses none. -/
def Enters (extra : List String) (change : ClassEntry → ClassEntry) : Prop :=
  ∀ c s, s ∈ (change c).strings ↔ s ∈ c.strings ∨ s ∈ extra

theorem enters_id : Enters [] id := fun c s => by simp

theorem enters_addAttribute (item : String) : Enters [item] (·.addAttribute item) := fun c s => by
  simp only [ClassEntry.strings, ClassEntry.addAttribute, List.mem_cons, List.mem_append,
    mem_appendNew, List.not_mem_nil]
  tauto

theorem enters_addMethod (item : String) : Enters [item] (·.addMethod item) := fun c s => by
  simp only [ClassEntry.strings, ClassEntry.addMethod, List.mem_cons, List.mem_append,
    mem_appendNew, List.not_mem_nil]
  tauto

/-- A class that is changed, or put in, adds its name and what the change adds. -/
theorem mem_strings_updateIn {extra : List String} {change : ClassEntry → ClassEntry}
    (hchange : Enters extra change) {name s : String} {classes : List ClassEntry} :
    s ∈ (ClassModel.updateIn name change classes).flatMap ClassEntry.strings ↔
      s ∈ classes.flatMap ClassEntry.strings ∨ s ∈ name :: extra := by
  induction classes with
  | nil =>
    rw [ClassModel.updateIn, List.flatMap_singleton, hchange, List.flatMap_nil, List.mem_cons]
    simp [ClassEntry.strings, ClassEntry.named]
  | cons c rest ih =>
    rw [ClassModel.updateIn]
    split_ifs with hname
    · have hc : name ∈ c.strings := by
        rw [← beq_iff_eq.mp hname]
        exact List.mem_cons_self
      rw [List.flatMap_cons, List.flatMap_cons, List.mem_append, List.mem_append, hchange,
        List.mem_cons]
      constructor
      · tauto
      · rintro ((h | h) | rfl | h) <;> tauto
    · rw [List.flatMap_cons, List.flatMap_cons, List.mem_append, List.mem_append, ih, or_assoc]

theorem ClassModel.mem_strings_update {extra : List String} {change : ClassEntry → ClassEntry}
    (hchange : Enters extra change) {m : ClassModel} {name s : String} :
    s ∈ (m.update name change).strings ↔ s ∈ m.strings ∨ s ∈ name :: extra := by
  rw [ClassModel.strings, ClassModel.update, List.mem_append, mem_strings_updateIn hchange,
    ClassModel.strings, List.mem_append]
  tauto

theorem ClassModel.mem_strings_addRelationship {m : ClassModel} {r : Relationship} {s : String}
    (h : s ∈ (m.addRelationship r).strings) : s ∈ m.strings ∨ s ∈ r.strings := by
  unfold ClassModel.addRelationship at h
  split_ifs at h
  · exact .inl h
  · simpa [ClassModel.strings, or_assoc] using h

theorem ClassModel.strings_subset_addRelationship (m : ClassModel) (r : Relationship) :
    m.strings ⊆ (m.addRelationship r).strings := by
  intro s hs
  unfold ClassModel.addRelationship
  split_ifs
  · exact hs
  · rw [ClassModel.strings, List.mem_append] at hs ⊢
    refine hs.imp_right fun hs => ?_
    rw [List.flatMap_append, List.mem_append]
    exact .inl hs

/-! ## Recording -/

namespace Extraction

open Draftsman.Text

/-- The strings that a finding puts into a diagram. -/
def Finding.strings : Finding → List String
  | .named name => [name]
  | .attribute owner item => [owner, item]
  | .method owner item => [owner, item]
  | .related r => r.strings

theorem mem_strings_record {m : ClassModel} {f : Finding} {s : String}
    (h : s ∈ (record m f).strings) : s ∈ m.strings ∨ s ∈ f.strings := by
  match f with
  | .named _ => exact (ClassModel.mem_strings_update enters_id).mp h
  | .attribute _ item => exact (ClassModel.mem_strings_update (enters_addAttribute item)).mp h
  | .method _ item => exact (ClassModel.mem_strings_update (enters_addMethod item)).mp h
  | .related _ => exact ClassModel.mem_strings_addRelationship h

theorem strings_subset_record (m : ClassModel) (f : Finding) :
    m.strings ⊆ (record m f).strings := by
  intro s hs
  match f with
  | .named _ => exact (ClassModel.mem_strings_update enters_id).mpr (.inl hs)
  | .attribute _ item =>
    exact (ClassModel.mem_strings_update (enters_addAttribute item)).mpr (.inl hs)
  | .method _ item => exact (ClassModel.mem_strings_update (enters_addMethod item)).mpr (.inl hs)
  | .related r => exact ClassModel.strings_subset_addRelationship m r hs

theorem mem_strings_foldl_record {m : ClassModel} {fs : List Finding} {s : String}
    (h : s ∈ (fs.foldl record m).strings) : s ∈ m.strings ∨ ∃ f ∈ fs, s ∈ f.strings := by
  induction fs generalizing m with
  | nil => exact .inl h
  | cons f fs ih =>
    rcases ih h with h | ⟨g, hg, h⟩
    · rcases mem_strings_record h with h | h
      · exact .inl h
      · exact .inr ⟨f, List.mem_cons_self, h⟩
    · exact .inr ⟨g, List.mem_cons_of_mem f hg, h⟩

theorem strings_subset_foldl_record (m : ClassModel) (fs : List Finding) :
    m.strings ⊆ (fs.foldl record m).strings :=
  List.foldlRecOn (motive := fun m' => m.strings ⊆ m'.strings) fs record (List.Subset.refl _)
    fun m' hm' f _ => List.Subset.trans hm' (strings_subset_record m' f)

/-- Every string of a draft is one of a finding. -/
theorem exists_of_mem_extract {text s : String} (h : s ∈ (extract text).strings) :
    ∃ f ∈ findings text, s ∈ f.strings :=
  (mem_strings_foldl_record h).resolve_left List.not_mem_nil

/-- No attribute that a finding lists is missing in the draft. -/
theorem mem_extract_of_attribute {text owner item : String}
    (h : .attribute owner item ∈ findings text) : item ∈ (extract text).strings := by
  obtain ⟨before, after, hsplit⟩ := List.append_of_mem h
  rw [extract, hsplit, List.foldl_append, List.foldl_cons]
  refine strings_subset_foldl_record _ after ?_
  exact (ClassModel.mem_strings_update (enters_addAttribute item)).mpr (.inr (by simp))

/-! ## Lines -/

/-- The items of a line that lists attributes. -/
def Line.items : Line → List (List Char)
  | .attributes _ items => items
  | .prose _ => []

/-- The attributes that the lines of a text list. -/
def listed (text : String) : List (List Char) :=
  (lines text.toList).flatMap fun line => (classify line).items

/-- **Every listed attribute is in the draft.** -/
theorem mem_extract_of_listed {text : String} {item : List Char} (h : item ∈ listed text) :
    String.ofList item ∈ (extract text).strings := by
  obtain ⟨line, hline, hitem⟩ := List.mem_flatMap.mp h
  cases hclass : classify line with
  | prose text =>
    rw [hclass] at hitem
    exact absurd hitem List.not_mem_nil
  | attributes name items =>
    rw [hclass] at hitem
    have hfinding : .attribute (String.ofList name) (String.ofList item) ∈ findings text := by
      refine List.mem_flatMap.mpr ⟨line, hline, ?_⟩
      rw [lineFindings, hclass]
      exact List.mem_cons_of_mem _ (List.mem_map_of_mem hitem)
    exact mem_extract_of_attribute hfinding

/-- **A string of a draft is a listed attribute, the label of a list, or found in prose.** -/
theorem mem_extract_cases {text s : String} (h : s ∈ (extract text).strings) :
    (∃ item ∈ listed text, s = String.ofList item) ∨
      (∃ line name items, classify line = .attributes name items ∧ s = String.ofList name) ∨
      ∃ sentence, ∃ f ∈ sentenceFindings sentence, s ∈ f.strings := by
  obtain ⟨f, hf, hs⟩ := exists_of_mem_extract h
  obtain ⟨line, hline, hf⟩ := List.mem_flatMap.mp hf
  unfold lineFindings at hf
  split at hf
  · rename_i name items hclass
    rcases List.mem_cons.mp hf with rfl | hf
    · rw [Finding.strings, List.mem_singleton] at hs
      exact .inr (.inl ⟨line, name, items, hclass, hs⟩)
    · obtain ⟨item, hitem, rfl⟩ := List.mem_map.mp hf
      simp only [Finding.strings, List.mem_cons, List.not_mem_nil, or_false] at hs
      rcases hs with hs | hs
      · exact .inr (.inl ⟨line, name, items, hclass, hs⟩)
      · refine .inl ⟨item, List.mem_flatMap.mpr ⟨line, hline, ?_⟩, hs⟩
        rw [hclass]
        exact hitem
  · obtain ⟨sentence, -, hf⟩ := List.mem_flatMap.mp hf
    exact .inr (.inr ⟨sentence, f, hf, hs⟩)

/-! ## Labels -/

theorem isWordMember_of_mem_capitalWords (cs : List Char) :
    ∀ w ∈ (capitalWords cs).1, ∀ c ∈ w, isWordMember c = true := by
  have hword (c : Char) (hc : c.isUpper = true) (tail : List Char) :
      ∀ d ∈ c :: tail.takeWhile isWordMember, isWordMember d = true := by
    intro d hd
    rcases List.mem_cons.mp hd with rfl | hd
    · exact isWordMember_of_isAlphanum (isAlphanum_of_isUpper hc)
    · exact List.mem_takeWhile_imp hd
  induction cs using capitalWords.induct with
  | case1 =>
    rw [capitalWords]
    exact fun w hw => absurd hw List.not_mem_nil
  | case2 c tail hc rest hmore ih =>
    rw [capitalWords, if_pos hc]
    dsimp only
    rw [if_pos hmore]
    intro w hw
    rcases List.mem_cons.mp hw with rfl | hw
    · exact hword c hc tail
    · exact ih w hw
  | case3 c tail hc rest hmore =>
    rw [capitalWords, if_pos hc]
    dsimp only
    rw [if_neg hmore]
    intro w hw
    rw [List.mem_singleton.mp hw]
    exact hword c hc tail
  | case4 c tail hc =>
    rw [capitalWords, if_neg hc]
    exact fun w hw => absurd hw List.not_mem_nil

/-- A label consists of words with single spaces between them. -/
theorem exists_words_of_classify {line name : List Char} {items : List (List Char)}
    (h : classify line = .attributes name items) :
    ∃ ws, name = [' '].intercalate ws ∧ ∀ w ∈ ws, ∀ c ∈ w, isWordMember c = true := by
  unfold classify at h
  split at h
  · exact absurd h (by simp)
  · rename_i ws body hlabel
    dsimp only at h
    split_ifs at h
    obtain ⟨rfl, -⟩ := Line.attributes.inj h
    refine ⟨ws, rfl, ?_⟩
    unfold labelled? at hlabel
    split at hlabel
    · exact absurd hlabel (by simp)
    · rename_i ws' rest _ hwords
      split at hlabel
      · obtain ⟨rfl, -⟩ := Prod.mk.inj (Option.some.inj hlabel)
        have hall := isWordMember_of_mem_capitalWords (dropArticle (dropBullet (trimStart line)))
        rwa [hwords] at hall
      · exact absurd hlabel (by simp)

end Extraction

end Draftsman
