/-
Class diagrams that grow well formed.

A draft is built by four operations: a class is put in, or changed, under its name, and a
relationship is put in unless it is there already. In a *well-formed* diagram nothing is
said twice, every relationship leads between classes that are listed, and every name, label
and kind is one that a draft may hold. Each operation keeps a diagram well formed if what it
puts in is; for a relationship that means that its classes are known already.
-/
import Draftsman.Diagram.Model
import Draftsman.Text.Letters
import Draftsman.Proofs.Diagram.Canonical
import Draftsman.Proofs.Text.Solid
import Mathlib.Data.List.Nodup

set_option autoImplicit false

namespace Draftsman

open Draftsman.Text

/-! ## Items that are listed once -/

theorem mem_appendNew {item a : String} {items : List String} :
    a ∈ appendNew item items ↔ a ∈ items ∨ a = item := by
  unfold appendNew
  split_ifs with hmem
  · constructor
    · exact Or.inl
    · rintro (h | rfl)
      · exact h
      · exact List.contains_iff_mem.mp hmem
  · rw [List.mem_append, List.mem_singleton]

theorem nodup_appendNew {item : String} {items : List String} (h : items.Nodup) :
    (appendNew item items).Nodup := by
  unfold appendNew
  split_ifs with hmem
  · exact h
  · refine List.nodup_append.mpr ⟨h, List.nodup_singleton item, fun a ha b hb hab => ?_⟩
    rw [List.mem_singleton.mp hb] at hab
    exact hmem (List.contains_iff_mem.mpr (hab ▸ ha))

theorem forall_mem_appendNew {P : String → Prop} {item : String} {items : List String}
    (h : ∀ a ∈ items, P a) (hitem : P item) : ∀ a ∈ appendNew item items, P a := by
  intro a ha
  rcases mem_appendNew.mp ha with ha | rfl
  · exact h a ha
  · exact hitem

/-! ## Well-formed parts -/

/-- The name of a class in a draft: a name of which every word begins with a capital. -/
structure IsClassName (name : String) : Prop where
  isName : IsName name
  capitalized : ∀ w ∈ words name.toList, w.head?.any isUppercase = true

/-- Words with capitals make the name of a class. -/
theorem isClassName_of_words {ws : List (List Char)} (hws : ws ≠ [])
    (hsolid : ∀ w ∈ ws, Solid w) (hcapital : ∀ w ∈ ws, w.head?.any isUppercase = true) :
    IsClassName (String.ofList ([' '].intercalate ws)) := by
  refine ⟨⟨fun hempty => ?_, ?_⟩, ?_⟩
  · apply intercalate_ne_nil hsolid hws
    rw [← String.toList_ofList (l := [' '].intercalate ws), hempty, String.toList_empty]
  · rw [trim_eq_self_iff, String.toList_ofList]
    exact trimmed_intercalate hsolid
  · rw [String.toList_ofList, words_intercalate hsolid]
    exact hcapital

/-- The name of a method in a draft: a stem and a pair of parentheses. -/
def IsMethodName (s : String) : Prop := ∃ stem, Solid stem ∧ s = String.ofList stem ++ "()"

theorem IsMethodName.isName {s : String} (h : IsMethodName s) : IsName s := by
  obtain ⟨stem, hstem, rfl⟩ := h
  have hlist : (String.ofList stem ++ "()").toList = stem ++ (['('] ++ [')']) := by
    rw [String.toList_append, String.toList_ofList]
    rfl
  refine ⟨fun hempty => ?_, ?_⟩
  · rw [hempty, String.toList_empty] at hlist
    exact hstem.ne_nil (List.append_eq_nil_iff.mp hlist.symm).1
  · rw [trim_eq_self_iff, hlist]
    exact hstem.trimmed.append (trimmed_singleton rfl) hstem.ne_nil (List.cons_ne_nil _ _) _

/-- A class as a draft leaves it. Members are entered under their names, so none is there twice. -/
structure ClassEntry.WellFormed (c : ClassEntry) : Prop where
  name : IsClassName c.name
  attributes : ∀ a ∈ c.attributes, IsName a
  attributes_nodup : c.attributes.Nodup
  methods : ∀ m ∈ c.methods, IsMethodName m
  methods_nodup : c.methods.Nodup

/-- The kinds of relationship that a draft can tell apart. -/
def RelationshipKind.drafted : List RelationshipKind :=
  [association, inheritance, composition, oneToMany, manyToOne, manyToMany]

/-- A relationship as a draft makes it: of a kind that a text can tell, and with the verb for a label
where the kind does not stand for the verb. -/
structure Relationship.WellFormed (r : Relationship) : Prop where
  kind : r.kind ∈ RelationshipKind.drafted
  label_eq_empty : r.label = "" ↔ r.kind = .inheritance ∨ r.kind = .composition
  label_trim : trim r.label = r.label

/-- What a diagram tells relationships apart by. -/
def Relationship.key (r : Relationship) : String × String × RelationshipKind :=
  (r.source, r.target, r.kind)

/-- The names of the classes of a diagram. -/
def ClassModel.names (m : ClassModel) : List String := m.classes.map ClassEntry.name

/-- A class diagram as a draft leaves it. -/
structure ClassModel.WellFormed (m : ClassModel) : Prop where
  names_nodup : m.names.Nodup
  classes : ∀ c ∈ m.classes, c.WellFormed
  endpoints : ∀ r ∈ m.relationships, r.source ∈ m.names ∧ r.target ∈ m.names
  relationships : ∀ r ∈ m.relationships, r.WellFormed
  keys_nodup : (m.relationships.map Relationship.key).Nodup

theorem ClassModel.wellFormed_empty : ClassModel.empty.WellFormed := by
  refine ⟨List.nodup_nil, ?_, ?_, ?_, List.nodup_nil⟩
  · exact fun c hc => absurd hc List.not_mem_nil
  · exact fun r hr => absurd hr List.not_mem_nil
  · exact fun r hr => absurd hr List.not_mem_nil

/-! ## Well-formed parts are canonical -/

theorem ClassEntry.WellFormed.canonical {c : ClassEntry} (h : c.WellFormed) : c.Canonical :=
  ⟨h.name.isName, h.attributes, fun m hm => (h.methods m hm).isName⟩

theorem RelationshipKind.canonical_of_mem_drafted {k : RelationshipKind}
    (h : k ∈ RelationshipKind.drafted) : k.Canonical := by
  have hother (s : String) : other s ∉ RelationshipKind.drafted := by simp [drafted]
  refine ⟨fun s hs => ?_, fun s hs => ?_⟩
  · exact absurd (hs ▸ h) (hother s)
  · exact absurd (hs ▸ h) (hother s)

theorem ClassModel.WellFormed.isName_of_mem_names {m : ClassModel} (h : m.WellFormed)
    {name : String} (hname : name ∈ m.names) : IsName name := by
  obtain ⟨c, hc, rfl⟩ := List.mem_map.mp hname
  exact (h.classes c hc).name.isName

/-- **A well-formed diagram is canonical**: the ends of its relationships are names because
its classes have names. -/
theorem ClassModel.WellFormed.canonical {m : ClassModel} (h : m.WellFormed) : m.Canonical := by
  refine ⟨fun c hc => (h.classes c hc).canonical, fun r hr => ⟨?_, ?_, ?_, ?_⟩⟩
  -- the two ends, the kind and the label
  · exact h.isName_of_mem_names (h.endpoints r hr).1
  · exact h.isName_of_mem_names (h.endpoints r hr).2
  · exact RelationshipKind.canonical_of_mem_drafted (h.relationships r hr).kind
  · exact (h.relationships r hr).label_trim

/-! ## Changing a class -/

namespace ClassEntry

theorem wellFormed_named {name : String} (h : IsClassName name) :
    (ClassEntry.named name).WellFormed := by
  refine ⟨h, ?_, List.nodup_nil, ?_, List.nodup_nil⟩
  · exact fun a ha => absurd ha List.not_mem_nil
  · exact fun m hm => absurd hm List.not_mem_nil

theorem WellFormed.addAttribute {c : ClassEntry} (h : c.WellFormed) {item : String}
    (hitem : IsName item) : (c.addAttribute item).WellFormed :=
  { h with
    attributes := forall_mem_appendNew h.attributes hitem
    attributes_nodup := nodup_appendNew h.attributes_nodup }

theorem WellFormed.addMethod {c : ClassEntry} (h : c.WellFormed) {item : String}
    (hitem : IsMethodName item) : (c.addMethod item).WellFormed :=
  { h with
    methods := forall_mem_appendNew h.methods hitem
    methods_nodup := nodup_appendNew h.methods_nodup }

end ClassEntry

namespace ClassModel

section Update

variable {name : String} {change : ClassEntry → ClassEntry}
  (hname : ∀ c, (change c).name = c.name)
include hname

/-- A class is put in by its name once, whatever else is done to it. -/
theorem map_name_updateIn (cs : List ClassEntry) :
    (updateIn name change cs).map ClassEntry.name = appendNew name (cs.map ClassEntry.name) := by
  induction cs with
  | nil => simp [updateIn, appendNew, hname, ClassEntry.named]
  | cons c cs ih =>
    rw [updateIn]
    split_ifs with hc
    · -- the class is found, and keeps its name and place
      rw [beq_iff_eq] at hc
      simp [appendNew, hname, hc]
    · -- the class comes later, or is put in at the end
      have hne : name ≠ c.name := fun h => hc (beq_iff_eq.mpr h.symm)
      rw [List.map_cons, ih, appendNew, appendNew, List.map_cons]
      simp only [List.contains_cons, beq_eq_false_iff_ne.mpr hne, Bool.false_or]
      split_ifs
      · rfl
      · rfl

theorem names_update (m : ClassModel) : (m.update name change).names = appendNew name m.names :=
  map_name_updateIn hname m.classes

end Update

/-- What holds of every class holds after a change of one of them that keeps it. -/
theorem forall_mem_updateIn {P : ClassEntry → Prop} {name : String}
    {change : ClassEntry → ClassEntry} {cs : List ClassEntry} (hcs : ∀ c ∈ cs, P c)
    (hnew : P (.named name)) (hchange : ∀ c, P c → P (change c)) :
    ∀ c ∈ updateIn name change cs, P c := by
  induction cs with
  | nil =>
    intro c hc
    rw [updateIn, List.mem_singleton] at hc
    exact hc ▸ hchange _ hnew
  | cons d cs ih =>
    have hd : P d := hcs d List.mem_cons_self
    have htail : ∀ c ∈ cs, P c := fun c hc => hcs c (List.mem_cons_of_mem d hc)
    intro c hc
    rw [updateIn] at hc
    split_ifs at hc
    · rcases List.mem_cons.mp hc with rfl | hc
      · exact hchange d hd
      · exact htail c hc
    · rcases List.mem_cons.mp hc with rfl | hc
      · exact hd
      · exact ih htail c hc

/-- **A change of one class keeps a diagram well formed** if it keeps the class so. -/
theorem WellFormed.update {m : ClassModel} (h : m.WellFormed) {name : String}
    {change : ClassEntry → ClassEntry} (hclass : IsClassName name)
    (hname : ∀ c, (change c).name = c.name) (hchange : ∀ c, c.WellFormed → (change c).WellFormed) :
    (m.update name change).WellFormed := by
  refine ⟨?_, ?_, ?_, h.relationships, h.keys_nodup⟩
  · rw [names_update hname]
    exact nodup_appendNew h.names_nodup
  · exact forall_mem_updateIn h.classes (ClassEntry.wellFormed_named hclass) hchange
  · intro r hr
    rw [names_update hname, mem_appendNew, mem_appendNew]
    exact ⟨Or.inl (h.endpoints r hr).1, Or.inl (h.endpoints r hr).2⟩

theorem WellFormed.ensure {m : ClassModel} (h : m.WellFormed) {name : String}
    (hname : IsClassName name) : (m.ensure name).WellFormed :=
  h.update hname (fun _ => rfl) fun _ hc => hc

theorem WellFormed.addAttribute {m : ClassModel} (h : m.WellFormed) {name item : String}
    (hname : IsClassName name) (hitem : IsName item) : (m.addAttribute name item).WellFormed :=
  h.update hname (fun _ => rfl) fun _ hc => hc.addAttribute hitem

theorem WellFormed.addMethod {m : ClassModel} (h : m.WellFormed) {name item : String}
    (hname : IsClassName name) (hitem : IsMethodName item) : (m.addMethod name item).WellFormed :=
  h.update hname (fun _ => rfl) fun _ hc => hc.addMethod hitem

/-! ## Relating two classes -/

/-- **A relationship between known classes keeps a diagram well formed.** -/
theorem WellFormed.addRelationship {m : ClassModel} (h : m.WellFormed) {r : Relationship}
    (hr : r.WellFormed) (hsource : r.source ∈ m.names) (htarget : r.target ∈ m.names) :
    (m.addRelationship r).WellFormed := by
  unfold ClassModel.addRelationship
  split_ifs with hknown
  · exact h
  · -- it was looked for by its key, so its key is new
    have hkey : r.key ∉ m.relationships.map Relationship.key := by
      intro hmem
      obtain ⟨q, hq, hqr⟩ := List.mem_map.mp hmem
      apply hknown
      refine List.any_eq_true.mpr ⟨q, hq, ?_⟩
      simp only [Relationship.key, Prod.mk.injEq] at hqr
      simp [hqr]
    refine ⟨h.names_nodup, h.classes, ?_, ?_, ?_⟩
    · intro q hq
      rcases List.mem_append.mp hq with hq | hq
      · exact h.endpoints q hq
      · rw [List.mem_singleton.mp hq]
        exact ⟨hsource, htarget⟩
    · intro q hq
      rcases List.mem_append.mp hq with hq | hq
      · exact h.relationships q hq
      · exact List.mem_singleton.mp hq ▸ hr
    · rw [List.map_append, List.map_singleton]
      refine List.nodup_append.mpr ⟨h.keys_nodup, List.nodup_singleton _, fun a ha b hb hab => ?_⟩
      rw [List.mem_singleton.mp hb] at hab
      exact hkey (hab ▸ ha)

theorem names_addRelationship (m : ClassModel) (r : Relationship) :
    (m.addRelationship r).names = m.names := by
  unfold ClassModel.addRelationship
  split_ifs
  · rfl
  · rfl

end ClassModel

end Draftsman
