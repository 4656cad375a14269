/-
Which items of a payload's lists are kept.

A list of a payload is read item by item, and an item that cannot be read is left out without a
trace. Every optional field is read from any value at all, so an item is lost only for a required
field that stands for no text, with one exception: the kind of a relationship or of a message must
be a text or null where it is given. A number, a truth value or a container in its place loses the
item, with all that it says (`items_eq_of_kind`). Apart from that the items with all their
required fields are kept, in their order (`items_eq_map`).
-/
import Draftsman.Proofs.Diagram.Canonical

set_option autoImplicit false

namespace Draftsman

open Draftsman.Lenient

namespace Lenient

/-! ## Items -/

/-- The items of a list; an object alone is a list of one. -/
def listed : Option Json → List Json
  | some (.array values) => values
  | some (.object members) => [.object members]
  | _ => []

/-- The items of a list that are records with the given fields. -/
def records (fields : List String) (value : Option Json) : List (List (String × Json)) :=
  (listed value).filterMap (record? fields)

/-- Whether each of the given fields of a record stands for a text that is not empty. -/
def complete (keys : List String) (record : List (String × Json)) : Bool :=
  keys.all fun key => optionalText (record.lookup key) != ""

theorem complete_nil (record : List (String × Json)) : complete [] record = true := rfl

theorem complete_cons (key : String) (keys : List String) (record : List (String × Json)) :
    complete (key :: keys) record =
      (optionalText (record.lookup key) != "" && complete keys record) := rfl

/-- The records of a list that have a text in each of the given fields. -/
def usable (fields keys : List String) (value : Option Json) : List (List (String × Json)) :=
  (records fields value).filter (complete keys)

/-- Whether a kind can be read: it is absent, null or a text. -/
def isKind : Option Json → Bool
  | none | some .null | some (.string _) => true
  | _ => false

/-- Whether the kind of a record can be read. -/
def hasKind (record : List (String × Json)) : Bool := isKind (record.lookup "type")

theorem items_eq_filterMap {α : Type} (read : Json → Option α) (value : Option Json) :
    items read value = (listed value).filterMap read := by
  have hone : ∀ v : Json, (read v).toList = [v].filterMap read := by
    intro v
    cases hread : read v with
    | none => rw [List.filterMap_cons_none hread, Option.toList_none, List.filterMap_nil]
    | some a => rw [List.filterMap_cons_some hread, Option.toList_some, List.filterMap_nil]
  cases value with
  | none => rfl
  | some v =>
    cases v with
    | object members => exact hone (.object members)
    | _ => rfl

/-- **Where a record is read if a condition holds, the records with it are kept**, in their
order. -/
theorem items_eq_map {α : Type} {read : Json → Option α} {fields : List String}
    {keep : List (String × Json) → Bool} {make : List (String × Json) → α}
    (hread : ∀ v, read v = (record? fields v).bind fun r => if keep r then some (make r) else none)
    (value : Option Json) : items read value = ((records fields value).filter keep).map make := by
  rw [items_eq_filterMap, records, ← List.filterMap_eq_map, List.filterMap_filter,
    List.filterMap_filterMap]
  exact List.filterMap_congr fun v _ => hread v

/-! ## Fields -/

/-- To read on with the text of a field is to read on unless the text is empty. -/
theorem bind_text?_bind {α : Type} (value : Option Json) (next : String → Option α) :
    (value.bind text?).bind next =
      if (optionalText value != "") = true then next (optionalText value) else none := by
  cases h : value.bind text? with
  | none =>
    have hempty : optionalText value = "" := by rw [optionalText, h, Option.getD_none]
    rw [hempty]
    rfl
  | some s =>
    have htext : optionalText value = s := by rw [optionalText, h, Option.getD_some]
    have hname := (isName_of_bind_text? h).ne_empty
    rw [htext, if_pos (bne_iff_ne.mpr hname), Option.bind_some]

/-- The kind that a text names; anything else names the default. -/
def kindOf {α : Type} (default : α) (parse : String → α) : Option Json → α
  | some (.string s) => parse s
  | _ => default

theorem kind?_bind {α β : Type} (default : α) (parse : String → α) (value : Option Json)
    (next : α → Option β) :
    (kind? default parse value).bind next =
      if isKind value = true then next (kindOf default parse value) else none := by
  cases value with
  | none => rfl
  | some v => cases v <;> rfl

end Lenient

/-! ## Records

For each record, its fields, what they are read as, and when. -/

namespace ClassEntry

/-- The fields of a class. -/
def fields : List String := ["name", "attributes", "methods"]

/-- The class that a record describes. -/
def ofFields (record : List (String × Json)) : ClassEntry :=
  ⟨optionalText (record.lookup "name"), texts (record.lookup "attributes"),
    texts (record.lookup "methods")⟩

theorem ofJson?_eq (value : Json) :
    ofJson? value = (record? fields value).bind fun record =>
      if complete ["name"] record then some (ofFields record) else none := by
  refine congrArg (record? fields value).bind (funext fun record => ?_)
  simp only [Option.bind_eq_bind, bind_text?_bind, complete_cons, complete_nil, Bool.and_true]
  rfl

end ClassEntry

namespace Relationship

/-- The fields of a relationship. -/
def fields : List String := ["from", "to", "type", "label"]

/-- The relationship that a record describes. -/
def ofFields (record : List (String × Json)) : Relationship :=
  ⟨optionalText (record.lookup "from"), optionalText (record.lookup "to"),
    kindOf .association RelationshipKind.parse (record.lookup "type"),
    optionalText (record.lookup "label")⟩

theorem ofJson?_eq (value : Json) :
    ofJson? value = (record? fields value).bind fun record =>
      if complete ["from", "to"] record && hasKind record then some (ofFields record)
      else none := by
  refine congrArg (record? fields value).bind (funext fun record => ?_)
  simp only [Option.bind_eq_bind, bind_text?_bind, kind?_bind, complete_cons, complete_nil, hasKind,
    Bool.and_true, Bool.and_eq_true, ite_and]
  rfl

end Relationship

namespace Participation

/-- The fields of a participation. -/
def fields : List String := ["actor", "use_case"]

/-- The participation that a record describes. -/
def ofFields (record : List (String × Json)) : Participation :=
  ⟨optionalText (record.lookup "actor"), optionalText (record.lookup "use_case")⟩

theorem ofJson?_eq (value : Json) :
    ofJson? value = (record? fields value).bind fun record =>
      if complete ["actor", "use_case"] record then some (ofFields record) else none := by
  refine congrArg (record? fields value).bind (funext fun record => ?_)
  simp only [Option.bind_eq_bind, bind_text?_bind, complete_cons, complete_nil, Bool.and_true,
    Bool.and_eq_true, ite_and]
  rfl

end Participation

namespace UseCaseLink

/-- The fields of a dependency between use cases. -/
def fields : List String := ["from", "to"]

/-- The dependency between use cases that a record describes. -/
def ofFields (record : List (String × Json)) : UseCaseLink :=
  ⟨optionalText (record.lookup "from"), optionalText (record.lookup "to")⟩

theorem ofJson?_eq (value : Json) :
    ofJson? value = (record? fields value).bind fun record =>
      if complete ["from", "to"] record then some (ofFields record) else none := by
  refine congrArg (record? fields value).bind (funext fun record => ?_)
  simp only [Option.bind_eq_bind, bind_text?_bind, complete_cons, complete_nil, Bool.and_true,
    Bool.and_eq_true, ite_and]
  rfl

end UseCaseLink

namespace Message

/-- The fields of a message. -/
def fields : List String := ["from", "to", "message", "type"]

/-- The message that a record describes. -/
def ofFields (record : List (String × Json)) : Message :=
  ⟨optionalText (record.lookup "from"), optionalText (record.lookup "to"),
    optionalText (record.lookup "message"),
    kindOf .sync MessageKind.parse (record.lookup "type")⟩

theorem ofJson?_eq (value : Json) :
    ofJson? value = (record? fields value).bind fun record =>
      if complete ["from", "to"] record && hasKind record then some (ofFields record)
      else none := by
  refine congrArg (record? fields value).bind (funext fun record => ?_)
  simp only [Option.bind_eq_bind, bind_text?_bind, kind?_bind, complete_cons, complete_nil, hasKind,
    Bool.and_true, Bool.and_eq_true, ite_and]
  rfl

end Message

namespace Activation

/-- The fields of an activation. -/
def fields : List String := ["participant", "deactivate"]

/-- The activation that a record describes. -/
def ofFields (record : List (String × Json)) : Activation :=
  ⟨optionalText (record.lookup "participant"), flag (record.lookup "deactivate")⟩

theorem ofJson?_eq (value : Json) :
    ofJson? value = (record? fields value).bind fun record =>
      if complete ["participant"] record then some (ofFields record) else none := by
  refine congrArg (record? fields value).bind (funext fun record => ?_)
  simp only [Option.bind_eq_bind, bind_text?_bind, complete_cons, complete_nil, Bool.and_true]
  rfl

end Activation

/-! ## Models -/

/-- Of the usable records those with a readable kind are kept, hence all of them exactly if all
their kinds can be read. -/
theorem items_eq_of_kind {α : Type} {read : Json → Option α} {fields keys : List String}
    {make : List (String × Json) → α}
    (hread : ∀ v, read v = (record? fields v).bind fun record =>
      if complete keys record && hasKind record then some (make record) else none)
    (value : Option Json) :
    items read value = ((usable fields keys value).filter hasKind).map make ∧
      (items read value = (usable fields keys value).map make ↔
        ∀ record ∈ usable fields keys value, hasKind record = true) := by
  have hkept : items read value = ((usable fields keys value).filter hasKind).map make := by
    rw [items_eq_map hread, usable, List.filter_filter]
    exact congrArg (List.map make) (List.filter_congr fun record _ => Bool.and_comm _ _)
  refine ⟨hkept, ?_⟩
  rw [hkept]
  constructor
  · intro h
    -- different records may be read as the same item, so their numbers are compared
    have hlength := congrArg List.length h
    rw [List.length_map, List.length_map] at hlength
    exact List.length_filter_eq_length_iff.mp hlength
  · intro h
    rw [List.filter_eq_self.mpr h]

/-- **What is read of the lists of a payload.** Every payload that is an object is read. Of the
items of its classes, associations, inclusions, extensions and activations exactly those are kept
that have a text in each required field, each read from its own fields, in their order, whatever
the other fields hold. Of its relationships and messages with such texts those are kept whose kind
is absent, null or a text: none is lost exactly if that is so for all of them. -/
theorem kept_items (members : List (String × Json)) :
    (∃ m, Model.ofJson .classes (.object members) = .ok (.classes m) ∧
      m.classes = (usable ClassEntry.fields ["name"] (members.lookup "classes")).map
        ClassEntry.ofFields ∧
      let related := usable Relationship.fields ["from", "to"] (members.lookup "relationships")
      m.relationships = (related.filter hasKind).map Relationship.ofFields ∧
      (m.relationships = related.map Relationship.ofFields ↔
        ∀ record ∈ related, hasKind record = true)) ∧
    (∃ m, Model.ofJson .useCases (.object members) = .ok (.useCases m) ∧
      m.associations = (usable Participation.fields ["actor", "use_case"]
        (members.lookup "associations")).map Participation.ofFields ∧
      m.includes = (usable UseCaseLink.fields ["from", "to"] (members.lookup "includes")).map
        UseCaseLink.ofFields ∧
      m.extensions = (usable UseCaseLink.fields ["from", "to"] (members.lookup "extends")).map
        UseCaseLink.ofFields) ∧
    ∃ m, Model.ofJson .sequence (.object members) = .ok (.sequence m) ∧
      m.activations = (usable Activation.fields ["participant"]
        (members.lookup "activations")).map Activation.ofFields ∧
      let sent := usable Message.fields ["from", "to"] (members.lookup "messages")
      m.messages = (sent.filter hasKind).map Message.ofFields ∧
      (m.messages = sent.map Message.ofFields ↔ ∀ record ∈ sent, hasKind record = true) := by
  refine ⟨⟨.ofRecord members, rfl, ?_, ?_⟩, ⟨.ofRecord members, rfl, ?_, ?_, ?_⟩,
    ⟨.ofRecord members, rfl, ?_, ?_⟩⟩
  · exact items_eq_map ClassEntry.ofJson?_eq _
  · exact items_eq_of_kind Relationship.ofJson?_eq _
  · exact items_eq_map Participation.ofJson?_eq _
  · exact items_eq_map UseCaseLink.ofJson?_eq _
  · exact items_eq_map UseCaseLink.ofJson?_eq _
  · exact items_eq_map Activation.ofJson?_eq _
  · exact items_eq_of_kind Message.ofJson?_eq _

/-- A message, or a relationship, with both its ends, and a number for its kind: it is left out,
though any other field may hold anything. -/
theorem numbered_kind_is_dropped :
    let ends : List (String × Json) := [("from", .string "A"), ("to", .string "B")]
    let numbered := ends ++ [("type", .number (.integer 1))]
    let mislabelled := ends ++ [("message", .array []), ("label", .array [])]
    complete ["from", "to"] numbered = true ∧
    Model.ofJson .sequence (.object [("messages", .array [.object numbered])]) =
      .ok (.sequence ⟨[], [], []⟩) ∧
    Model.ofJson .sequence (.object [("messages", .array [.object mislabelled])]) =
      .ok (.sequence ⟨[], [⟨"A", "B", "", .sync⟩], []⟩) ∧
    Model.ofJson .classes (.object [("relationships", .array [.object numbered])]) =
      .ok (.classes ⟨[], []⟩) ∧
    Model.ofJson .classes (.object [("relationships", .array [.object mislabelled])]) =
      .ok (.classes ⟨[], [⟨"A", "B", .association, ""⟩]⟩) := by
  refine ⟨by decide, ?_, ?_, ?_, ?_⟩ <;> rfl

end Draftsman
