/-
Drafts of texts that go on.

Findings enter a diagram one after the other, and each of them adds to the names, to one
class, or to the relationships, by the same rule of growth. That rule is associative, so it
makes no difference whether findings are recorded in a diagram directly or a diagram is made
of them first and merged in (`foldl_record_eq_merge`). Since lines are read one by one, the
draft of a text that goes on after a line feed is therefore a merge of two drafts
(`extract_append`).
-/
import Draftsman.Proofs.Diagram.Merging
import Draftsman.Proofs.Extraction.Draft
import Draftsman.Proofs.Extraction.LineEnds

set_option autoImplicit false

namespace Draftsman.Extraction

/-! ## What a finding adds -/

namespace Finding

/-- The names that a finding adds. -/
def owners : Finding → List String
  | .named name => [name]
  | .attribute owner _ => [owner]
  | .method owner _ => [owner]
  | .related _ => []

/-- What a finding adds to the class of the given name. -/
def part (name : String) : Finding → ClassEntry
  | .attribute owner item => ⟨name, if owner = name then [item] else [], []⟩
  | .method owner item => ⟨name, [], if owner = name then [item] else []⟩
  | .named _ => .named name
  | .related _ => .named name

/-- The relationships that a finding adds. -/
def relationships : Finding → List Relationship
  | .related r => [r]
  | _ => []

end Finding

theorem addRelationship_eq (m : ClassModel) (r : Relationship) :
    m.addRelationship r = ⟨m.classes, addNew Relationship.key m.relationships r⟩ := by
  have hknown : (m.relationships.any fun q =>
      q.source == r.source && q.target == r.target && q.kind == r.kind) = true ↔
      r.key ∈ m.relationships.map Relationship.key := by
    simp [Relationship.key, and_assoc]
  unfold ClassModel.addRelationship addNew
  by_cases hmem : r.key ∈ m.relationships.map Relationship.key
  · rw [if_pos hmem, if_pos (hknown.mpr hmem)]
  · rw [if_neg hmem, if_neg (mt hknown.mp hmem)]

theorem names_record (m : ClassModel) (f : Finding) :
    (record m f).names = addAll id m.names f.owners := by
  have hupdate (name : String) (change : ClassEntry → ClassEntry)
      (hname : ∀ c, (change c).name = c.name) :
      (m.update name change).names = addNew id m.names name := by
    rw [ClassModel.names_update hname, appendNew_eq_addNew]
  match f with
  | .named name => exact hupdate name _ fun _ => rfl
  | .attribute owner _ => exact hupdate owner _ fun _ => rfl
  | .method owner _ => exact hupdate owner _ fun _ => rfl
  | .related r => exact ClassModel.names_addRelationship m r

theorem entry_record (m : ClassModel) (f : Finding) (name : String) :
    (record m f).entry name = (m.entry name).join (f.part name) := by
  match f with
  | .named other => exact ClassModel.entry_ensure m other name
  | .attribute owner item =>
    rw [record, ClassModel.entry_addAttribute, Finding.part]
    split_ifs
    · exact ClassModel.addAttribute_join _ item name []
    · rfl
  | .method owner item =>
    rw [record, ClassModel.entry_addMethod, Finding.part]
    split_ifs
    · exact ClassModel.addMethod_join _ item name []
    · rfl
  | .related r =>
    rw [record, addRelationship_eq]
    rfl

theorem relationships_record (m : ClassModel) (f : Finding) :
    (record m f).relationships = addAll Relationship.key m.relationships f.relationships := by
  match f with
  | .named _ => rfl
  | .attribute _ _ => rfl
  | .method _ _ => rfl
  | .related r =>
    rw [record, addRelationship_eq]
    rfl

/-! ## What findings add

Each of the three inductions is on the findings from the right: the last one adds to what the
others have added, and by associativity to what they would have added to nothing. -/

theorem names_foldl_record (m : ClassModel) (fs : List Finding) :
    (fs.foldl record m).names = addAll id m.names (fs.foldl record .empty).names := by
  induction fs using List.reverseRecOn with
  | nil => rfl
  | append_singleton fs f ih =>
    simp only [List.foldl_append, List.foldl_cons, List.foldl_nil, names_record, ih, addAll_assoc]

theorem entry_foldl_record (m : ClassModel) (fs : List Finding) (name : String) :
    (fs.foldl record m).entry name = (m.entry name).join ((fs.foldl record .empty).entry name) := by
  induction fs using List.reverseRecOn with
  | nil => rfl
  | append_singleton fs f ih =>
    simp only [List.foldl_append, List.foldl_cons, List.foldl_nil, entry_record, ih,
      ClassEntry.join_assoc]

theorem relationships_foldl_record (m : ClassModel) (fs : List Finding) :
    (fs.foldl record m).relationships =
      addAll Relationship.key m.relationships (fs.foldl record .empty).relationships := by
  induction fs using List.reverseRecOn with
  | nil => rfl
  | append_singleton fs f ih =>
    simp only [List.foldl_append, List.foldl_cons, List.foldl_nil, relationships_record, ih,
      addAll_assoc]

/-- **Findings are recorded in a diagram as the diagram of them is merged into it.** -/
theorem foldl_record_eq_merge {m : ClassModel} (hnames : m.names.Nodup)
    (hkeys : (m.relationships.map Relationship.key).Nodup) (fs : List Finding)
    (hfs : (fs.foldl record .empty).names.Nodup) :
    fs.foldl record m = m.merge (fs.foldl record .empty) := by
  symm
  refine ClassModel.ext_of_entry (ClassModel.nodup_names_merge hnames _) ?_ (fun name => ?_) ?_
  · rw [names_foldl_record, ClassModel.names_merge]
  · rw [entry_foldl_record, ClassModel.entry_merge m hfs]
  · rw [relationships_foldl_record, ClassModel.relationships_merge hkeys]

/-! ## Texts -/

/-- **The draft of a text that goes on after a line feed** is the draft of what came before
with the draft of what is new merged into it. What was drafted before stays where it was, and
a text that is repeated adds nothing. -/
theorem extract_append (a b : String) :
    extract (a ++ "\n" ++ b) = (extract a).merge (extract b) ∧
      (extract a).Extends (extract (a ++ "\n" ++ b)) ∧
      extract (a ++ "\n" ++ a) = extract a := by
  have hmerge : ∀ b, extract (a ++ "\n" ++ b) = (extract a).merge (extract b) := by
    intro b
    rw [extract, findings_append, List.foldl_append]
    exact foldl_record_eq_merge (wellFormed_extract a).names_nodup (wellFormed_extract a).keys_nodup
      (findings b) (wellFormed_extract b).names_nodup
  refine ⟨hmerge b, ?_, ?_⟩
  · rw [hmerge b]
    exact ClassModel.extends_merge (wellFormed_extract a).names_nodup
      (wellFormed_extract b).names_nodup (wellFormed_extract a).keys_nodup
  · rw [hmerge a]
    exact ClassModel.merge_self (wellFormed_extract a).names_nodup (wellFormed_extract a).keys_nodup

end Draftsman.Extraction
