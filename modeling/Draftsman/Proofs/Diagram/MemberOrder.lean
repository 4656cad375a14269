/-
Reading a model does not depend on the order of members.

A document is written with its members in the order of their keys, and the encoding of a
model is not: its fields come in the order of the record. The readers of records look members
up by their keys and in no other way, so a plain value and its sorted value are read alike,
faults included (`Model.ofJson_sorted`). The encoding of every model is plain, and with that
every model that is canonical is read back from what is written of it, on its own or as a
part of something else.
-/
import Draftsman.Proofs.Diagram.Canonical
import Draftsman.Proofs.Json.Sorting

set_option autoImplicit false

namespace Draftsman

open Draftsman.Lenient Draftsman.Json

/-! ## Scalars and lists -/

section Readers

variable {n : Nat} {v : Json}

theorem Json.asString?_sorted (v : Json) : v.sorted.asString? = v.asString? := by
  cases v <;> rfl

theorem declared?_eq_of_lookup {members members' : List (String × Json)}
    (h : ∀ key, members'.lookup key = (members.lookup key).map sorted) :
    declared? members' = declared? members := by
  have hstring (key : String) : stringAt? key members' = stringAt? key members := by
    rw [stringAt?, h, stringAt?, Option.bind_map]
    exact congrArg _ (funext Json.asString?_sorted)
  simp only [declared?, hstring]

/-- A text stands for the same in any order of members. -/
theorem text?_sorted (h : Plain n v) : text? v.sorted = text? v := by
  cases h with
  | object hkeys _ => exact declared?_eq_of_lookup (lookup_sorted hkeys)
  | _ => rfl

theorem filterMap_sorted {α : Type} {read : Json → Option α} {items : List Json}
    (hread : ∀ v ∈ items, read v.sorted = read v) :
    (sortedItems items).filterMap read = items.filterMap read := by
  rw [sortedItems_eq_map, List.filterMap_map]
  exact List.filterMap_congr hread

end Readers

/-! ## Records -/

/-- Members under the same keys with sorted values, in any order. -/
structure Resorted (members members' : List (String × Json)) : Prop where
  lookup : ∀ key, members'.lookup key = (members.lookup key).map sorted
  plain : ∀ key v, members.lookup key = some v → ∃ n, Plain n v

namespace Resorted

variable {members members' : List (String × Json)} (h : Resorted members members')
include h

theorem bind_text? (key : String) :
    (members'.lookup key).bind text? = (members.lookup key).bind text? := by
  rw [h.lookup]
  cases hv : members.lookup key with
  | none => rfl
  | some v =>
    obtain ⟨n, hplain⟩ := h.plain key v hv
    exact text?_sorted hplain

theorem optionalText (key : String) :
    Lenient.optionalText (members'.lookup key) = Lenient.optionalText (members.lookup key) := by
  rw [Lenient.optionalText, h.bind_text?, Lenient.optionalText]

theorem flag (key : String) :
    Lenient.flag (members'.lookup key) = Lenient.flag (members.lookup key) := by
  rw [h.lookup]
  cases hv : members.lookup key with
  | none => rfl
  | some v => cases v <;> rfl

theorem kind? {α : Type} (default : α) (parse : String → α) (key : String) :
    Lenient.kind? default parse (members'.lookup key) =
      Lenient.kind? default parse (members.lookup key) := by
  rw [h.lookup]
  cases hv : members.lookup key with
  | none => rfl
  | some v => cases v <;> rfl

theorem texts (key : String) :
    Lenient.texts (members'.lookup key) = Lenient.texts (members.lookup key) := by
  rw [h.lookup]
  cases hv : members.lookup key with
  | none => rfl
  | some v =>
    obtain ⟨n, hplain⟩ := h.plain key v hv
    have htext := text?_sorted hplain
    cases hplain with
    | array hitems => exact filterMap_sorted fun v hv => text?_sorted (hitems v hv)
    | object _ _ => exact congrArg Option.toList htext
    | _ => rfl

theorem items {α : Type} {read : Json → Option α}
    (hread : ∀ n v, Plain n v → read v.sorted = read v) (key : String) :
    Lenient.items read (members'.lookup key) = Lenient.items read (members.lookup key) := by
  rw [h.lookup]
  cases hv : members.lookup key with
  | none => rfl
  | some v =>
    obtain ⟨n, hplain⟩ := h.plain key v hv
    have hvalue := hread n v hplain
    cases hplain with
    | array hitems => exact filterMap_sorted fun v hv => hread _ v (hitems v hv)
    | object _ _ => exact congrArg Option.toList hvalue
    | _ => rfl

end Resorted

section Records

variable {n : Nat} {v : Json} (h : Plain n v)
include h

/-- A record has the same fields in any order of members. An array gives its fields in their
order, so its items are sorted where they stand. -/
theorem record?_sorted (fields : List String) :
    Option.Rel Resorted (record? fields v) (record? fields v.sorted) := by
  cases h with
  | object hkeys hmembers =>
    exact .some ⟨lookup_sorted hkeys, fun key v hv => Plain.lookup (.object hkeys hmembers) hv⟩
  | array hitems =>
    rename_i n items
    rw [sorted_array, record?, record?, sortedItems_eq_map, List.length_map]
    split_ifs
    · -- the fields are paired with the items, and sorting an item does not move it
      refine .some ⟨fun key => ?_, fun key v hv => ⟨n, ?_⟩⟩
      · rw [List.zip_map_right]
        exact lookup_map_snd sorted _ key
      · obtain ⟨before, after, hzip, -⟩ := List.lookup_eq_some_iff.mp hv
        have hmem : (key, v) ∈ fields.zip items := by simp [hzip]
        exact hitems v (List.of_mem_zip hmem).2
    · exact .none
  | _ => exact .none

/-- What is made of the fields of a record by looking them up is the same. -/
theorem bind_record?_sorted {α : Type} {fields : List String}
    {make : List (String × Json) → Option α}
    (hmake : ∀ members members', Resorted members members' → make members' = make members) :
    (record? fields v.sorted).bind make = (record? fields v).bind make := by
  have hrecord := record?_sorted h fields
  revert hrecord
  generalize record? fields v = members
  generalize record? fields v.sorted = members'
  rintro (hmembers | _)
  · exact hmake _ _ hmembers
  · rfl

theorem ClassEntry.ofJson?_sorted : ClassEntry.ofJson? v.sorted = ClassEntry.ofJson? v :=
  bind_record?_sorted h fun _ _ hr => by rw [hr.bind_text?, hr.texts, hr.texts]

theorem Relationship.ofJson?_sorted : Relationship.ofJson? v.sorted = Relationship.ofJson? v :=
  bind_record?_sorted h fun _ _ hr => by
    rw [hr.bind_text?, hr.bind_text?, hr.kind?, hr.optionalText]

theorem Participation.ofJson?_sorted : Participation.ofJson? v.sorted = Participation.ofJson? v :=
  bind_record?_sorted h fun _ _ hr => by rw [hr.bind_text?, hr.bind_text?]

theorem UseCaseLink.ofJson?_sorted : UseCaseLink.ofJson? v.sorted = UseCaseLink.ofJson? v :=
  bind_record?_sorted h fun _ _ hr => by rw [hr.bind_text?, hr.bind_text?]

theorem Message.ofJson?_sorted : Message.ofJson? v.sorted = Message.ofJson? v :=
  bind_record?_sorted h fun _ _ hr => by
    rw [hr.bind_text?, hr.bind_text?, hr.kind?, hr.optionalText]

theorem Activation.ofJson?_sorted : Activation.ofJson? v.sorted = Activation.ofJson? v :=
  bind_record?_sorted h fun _ _ hr => by rw [hr.bind_text?, hr.flag]

end Records

/-! ## Models -/

theorem Model.ofRecord_eq_of_resorted {members members' : List (String × Json)}
    (h : Resorted members members') (kind : DiagramKind) :
    ofRecord members' kind = ofRecord members kind := by
  cases kind with
  | classes =>
    simp only [ofRecord, ClassModel.ofRecord, h.items fun _ _ => ClassEntry.ofJson?_sorted,
      h.items fun _ _ => Relationship.ofJson?_sorted]
  | useCases =>
    simp only [ofRecord, UseCaseModel.ofRecord, h.texts,
      h.items fun _ _ => Participation.ofJson?_sorted, h.items fun _ _ => UseCaseLink.ofJson?_sorted]
  | sequence =>
    simp only [ofRecord, SequenceModel.ofRecord, h.texts, h.items fun _ _ => Message.ofJson?_sorted,
      h.items fun _ _ => Activation.ofJson?_sorted]

/-- **A model is read alike in any order of members**, and so is what is no model. -/
theorem Model.ofJson_sorted {n : Nat} {v : Json} (h : Plain n v) (kind : DiagramKind) :
    ofJson kind v.sorted = ofJson kind v := by
  have hfault : recordFault kind.title v.sorted = recordFault kind.title v := by
    cases v with
    | array items =>
      rw [sorted_array, sortedItems_eq_map, recordFault, List.length_map, recordFault]
    | _ => rfl
  have hrecord := record?_sorted h kind.fields
  revert hrecord
  unfold ofJson
  rw [hfault]
  -- both values are records with the same fields, or neither is a record
  generalize record? kind.fields v = members
  generalize record? kind.fields v.sorted = members'
  rintro (hmembers | _)
  · exact congrArg Except.ok (ofRecord_eq_of_resorted hmembers kind)
  · rfl

/-! ## Encodings -/

section Encodings

variable {n : Nat}

theorem plain_texts (items : List String) : Plain (n + 1) (.texts items) := by
  refine .array fun v hv => ?_
  obtain ⟨s, -, rfl⟩ := List.mem_map.mp hv
  exact .string s

/-- Records that are plain make a plain array. -/
theorem plain_array_map {α : Type} {write : α → Json} (h : ∀ a, Plain n (write a)) (as : List α) :
    Plain (n + 1) (.array (as.map write)) := by
  refine .array fun v hv => ?_
  obtain ⟨a, -, rfl⟩ := List.mem_map.mp hv
  exact h a

theorem ClassEntry.plain_toJson (c : ClassEntry) : Plain (n + 2) c.toJson :=
  .object (by simp) (by simp [Plain.string, plain_texts])

theorem Relationship.plain_toJson (r : Relationship) : Plain (n + 2) r.toJson :=
  .object (by simp) (by simp [Plain.string])

theorem Participation.plain_toJson (p : Participation) : Plain (n + 2) p.toJson :=
  .object (by simp) (by simp [Plain.string])

theorem UseCaseLink.plain_toJson (l : UseCaseLink) : Plain (n + 2) l.toJson :=
  .object (by simp) (by simp [Plain.string])

theorem Message.plain_toJson (m : Message) : Plain (n + 2) m.toJson :=
  .object (by simp) (by simp [Plain.string])

theorem Activation.plain_toJson (a : Activation) : Plain (n + 2) a.toJson :=
  .object (by simp) (by simp [Plain.string, Plain.bool])

theorem ClassModel.plain_toJson (m : ClassModel) : Plain (n + 4) m.toJson :=
  .object (by simp) (by
    simp [plain_array_map ClassEntry.plain_toJson, plain_array_map Relationship.plain_toJson])

theorem UseCaseModel.plain_toJson (m : UseCaseModel) : Plain (n + 4) m.toJson :=
  .object (by simp) (by
    simp [plain_texts, plain_array_map Participation.plain_toJson,
      plain_array_map UseCaseLink.plain_toJson])

theorem SequenceModel.plain_toJson (m : SequenceModel) : Plain (n + 4) m.toJson :=
  .object (by simp) (by
    simp [plain_texts, plain_array_map Message.plain_toJson,
      plain_array_map Activation.plain_toJson])

/-- **The encoding of a model is plain.** -/
theorem Model.plain_toJson (m : Model) : Plain (n + 4) m.toJson := by
  cases m with
  | classes m => exact ClassModel.plain_toJson m
  | useCases m => exact UseCaseModel.plain_toJson m
  | sequence m => exact SequenceModel.plain_toJson m

end Encodings

/-! ## Reading back -/

/-- A canonical model is read back from its sorted encoding. -/
theorem Model.Canonical.ofJson_sorted_toJson {m : Model} (h : m.Canonical) :
    ofJson m.kind m.toJson.sorted = .ok m := by
  rw [Model.ofJson_sorted (n := 4) m.plain_toJson, h.ofJson_toJson]

end Draftsman
