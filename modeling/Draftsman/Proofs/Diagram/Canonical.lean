/-
The normal form of models, and why reading ends in it.

A model is *canonical* if writing it loses nothing that reading would not put back: its
names are trimmed and not empty, its labels are trimmed, and no relationship of a known
kind goes by its name only. The reader of payloads accepts nearly anything, but whatever
it makes of a payload is canonical (`Model.canonical_ofJson`), and a canonical model is
read back from its own encoding as it is (`Model.Canonical.ofJson_toJson`). So a second
round of writing and reading changes nothing.
-/
import Draftsman.Diagram.Decode
import Draftsman.Diagram.Encode
import Draftsman.Proofs.Decimal.NumberText
import Draftsman.Proofs.Text.Trimming

set_option autoImplicit false

namespace Draftsman

open Draftsman.Text Draftsman.Lenient

/-! ## Canonical models

One predicate for each record, in the order of the records themselves. -/

/-- A text that can stand as a name: not empty, and without blanks around it. -/
structure IsName (s : String) : Prop where
  ne_empty : s ≠ ""
  trim_eq : trim s = s

/-- A kind of relationship whose name, if it is not one of the known kinds, is trimmed and
is not read as one of them. -/
structure RelationshipKind.Canonical (k : RelationshipKind) : Prop where
  trim_eq : ∀ s, k = other s → trim s = s
  parse_eq : ∀ s, k = other s → parse s = other s

/-- A class that is named, and whose members are named. -/
structure ClassEntry.Canonical (c : ClassEntry) : Prop where
  name : IsName c.name
  attributes : ∀ a ∈ c.attributes, IsName a
  methods : ∀ m ∈ c.methods, IsName m

/-- A relationship between named ends, of a kind in normal form. Its label may be empty. -/
structure Relationship.Canonical (r : Relationship) : Prop where
  source : IsName r.source
  target : IsName r.target
  kind : r.kind.Canonical
  label : trim r.label = r.label

/-- A class diagram of classes and relationships in normal form. The ends of a relationship need not
be among the classes. -/
structure ClassModel.Canonical (m : ClassModel) : Prop where
  classes : ∀ c ∈ m.classes, c.Canonical
  relationships : ∀ r ∈ m.relationships, r.Canonical

/-- A participation of a named actor in a named use case. -/
structure Participation.Canonical (p : Participation) : Prop where
  actor : IsName p.actor
  useCase : IsName p.useCase

/-- A link between named use cases. -/
structure UseCaseLink.Canonical (l : UseCaseLink) : Prop where
  source : IsName l.source
  target : IsName l.target

/-- A use-case diagram of named elements, with edges between named ends. -/
structure UseCaseModel.Canonical (m : UseCaseModel) : Prop where
  actors : ∀ a ∈ m.actors, IsName a
  useCases : ∀ u ∈ m.useCases, IsName u
  associations : ∀ p ∈ m.associations, p.Canonical
  includes : ∀ l ∈ m.includes, l.Canonical
  extensions : ∀ l ∈ m.extensions, l.Canonical

/-- A message between named ends. Its text may be empty, and any kind of message will do. -/
structure Message.Canonical (m : Message) : Prop where
  source : IsName m.source
  target : IsName m.target
  text : trim m.text = m.text

/-- An activation, or the end of one, of a named participant. -/
structure Activation.Canonical (a : Activation) : Prop where
  participant : IsName a.participant

/-- A sequence diagram of named participants, with messages and activations in normal form. -/
structure SequenceModel.Canonical (m : SequenceModel) : Prop where
  participants : ∀ p ∈ m.participants, IsName p
  messages : ∀ g ∈ m.messages, g.Canonical
  activations : ∀ a ∈ m.activations, a.Canonical

/-- A model in the normal form of its kind. -/
def Model.Canonical : Model → Prop
  | classes m => m.Canonical
  | useCases m => m.Canonical
  | sequence m => m.Canonical

/-! ## Texts

The reader of a text is the place where every name and label passes through, so the
normal form of texts is settled here once. -/

theorem isName_of_trimmed? {s t : String} (h : trimmed? s = some t) : IsName t := by
  simp only [trimmed?] at h
  split_ifs at h with hempty
  rw [← Option.some.inj h]
  exact ⟨hempty, trim_trim s⟩

theorem IsName.trimmed?_eq {s : String} (h : IsName s) : trimmed? s = some s := by
  simp only [trimmed?, h.trim_eq]
  rw [if_neg h.ne_empty]

theorem IsName.trimmed {s : String} (h : IsName s) : Trimmed s.toList :=
  trim_eq_self_iff.mp h.trim_eq

theorem IsName.toList_ne_nil {s : String} (h : IsName s) : s.toList ≠ [] := fun hnil =>
  h.ne_empty (String.toList_inj.mp hnil)

/-- A name with its type is a name: it begins where the one begins and ends where the
other ends. -/
theorem IsName.declaration {name type : String} (hname : IsName name) (htype : IsName type) :
    IsName (name ++ ": " ++ type) := by
  have hlist : (name ++ ": " ++ type).toList = name.toList ++ ([':', ' '] ++ type.toList) := by
    rw [String.toList_append, String.toList_append, List.append_assoc]
    rfl
  refine ⟨?_, ?_⟩
  · intro hempty
    rw [hempty] at hlist
    exact hname.toList_ne_nil (List.append_eq_nil_iff.mp hlist.symm).1
  · rw [trim_eq_self_iff, hlist]
    exact hname.trimmed.append htype.trimmed hname.toList_ne_nil htype.toList_ne_nil _

theorem isName_numberText (n : Number) : IsName n.text := by
  refine ⟨n.text_ne_empty, trim_eq_self_iff.mpr (trimmed_of_forall fun c hc => ?_)⟩
  exact not_isBlank_of_isNumberChar (Number.isNumberChar_of_mem_text hc)

theorem isName_of_declared? {members : List (String × Json)} {s : String}
    (h : declared? members = some s) : IsName s := by
  simp only [declared?, Option.bind_eq_bind, Option.bind_eq_some_iff] at h
  obtain ⟨name, hname, h⟩ := h
  obtain ⟨raw, -, hname⟩ := hname
  split at h
  · rename_i type htype
    obtain ⟨rawType, -, htype⟩ := Option.bind_eq_some_iff.mp htype
    rw [← Option.some.inj h]
    exact (isName_of_trimmed? hname).declaration (isName_of_trimmed? htype)
  · rw [← Option.some.inj h]
    exact isName_of_trimmed? hname

/-- **Whatever a value stands for as a text is a name.** -/
theorem isName_of_text? {value : Json} {s : String} (h : text? value = some s) : IsName s := by
  cases value with
  | null | array items => exact absurd h (by simp [text?])
  | bool b =>
    rw [← Option.some.inj h]
    cases b <;> exact ⟨by decide, by decide⟩
  | number n => exact Option.some.inj h ▸ isName_numberText n
  | string s => exact isName_of_trimmed? h
  | object members => exact isName_of_declared? h

theorem isName_of_bind_text? {value : Option Json} {s : String} (h : value.bind text? = some s) :
    IsName s := by
  obtain ⟨v, -, hv⟩ := Option.bind_eq_some_iff.mp h
  exact isName_of_text? hv

theorem trim_optionalText (value : Option Json) :
    trim (optionalText value) = optionalText value := by
  unfold optionalText
  cases h : value.bind text? with
  | none => decide
  | some s => exact (isName_of_bind_text? h).trim_eq

theorem optionalText_string {s : String} (h : trim s = s) :
    optionalText (some (.string s)) = s := by
  by_cases hempty : s = ""
  · -- the empty text is no name, but a missing label is empty as well
    rw [hempty]
    decide
  · exact congrArg (·.getD "") (IsName.trimmed?_eq ⟨hempty, h⟩)

/-! ## Lists -/

/-- Reading undoes writing item by item. -/
theorem filterMap_map_eq_self {α β : Type} {read : β → Option α} {write : α → β} {as : List α}
    (h : ∀ a ∈ as, read (write a) = some a) : (as.map write).filterMap read = as := by
  rw [List.filterMap_map]
  exact (List.filterMap_congr h).trans List.filterMap_some

theorem isName_of_mem_texts {value : Option Json} {s : String} (h : s ∈ texts value) :
    IsName s := by
  unfold texts at h
  split at h
  · obtain ⟨v, -, hv⟩ := List.mem_filterMap.mp h
    exact isName_of_text? hv
  · obtain ⟨part, -, hpart⟩ := List.mem_filterMap.mp h
    exact isName_of_trimmed? hpart
  · exact isName_of_text? (Option.mem_toList.mp h)
  · exact absurd h List.not_mem_nil

theorem texts_toJson {ss : List String} (h : ∀ s ∈ ss, IsName s) : texts (some (.texts ss)) = ss :=
  filterMap_map_eq_self fun s hs => (h s hs).trimmed?_eq

section Items

variable {α : Type} {read : Json → Option α}

/-- What every readable record satisfies, every item of a list of records satisfies. -/
theorem forall_mem_items {P : α → Prop} (hread : ∀ v a, read v = some a → P a)
    (value : Option Json) : ∀ a ∈ items read value, P a := by
  intro a ha
  unfold items at ha
  split at ha
  · obtain ⟨v, -, hv⟩ := List.mem_filterMap.mp ha
    exact hread v a hv
  · exact hread _ a (Option.mem_toList.mp ha)
  · exact absurd ha List.not_mem_nil

/-- A list of records is read back from its encoding if each of its records is. -/
theorem items_map {write : α → Json} {as : List α} (h : ∀ a ∈ as, read (write a) = some a) :
    items read (some (.array (as.map write))) = as :=
  filterMap_map_eq_self h

end Items

/-! ## Kinds -/

theorem RelationshipKind.eq_trim_of_parse {raw s : String} (h : parse raw = other s) :
    s = trim raw := by
  simp only [parse] at h
  split at h
  -- only the last case is no known kind
  case h_11 => exact (other.inj h).symm
  all_goals exact absurd h (by simp)

/-- A name that is read as an unknown kind is kept trimmed, and is no better known when it
is read once more. -/
theorem RelationshipKind.canonical_parse (raw : String) : (parse raw).Canonical := by
  have hparse : parse (trim raw) = parse raw := by rw [parse, parse, trim_trim]
  refine ⟨?_, ?_⟩
  · intro s hs
    rw [eq_trim_of_parse hs, trim_trim]
  · intro s hs
    obtain rfl := eq_trim_of_parse hs
    exact hparse.trans hs

theorem RelationshipKind.Canonical.parse_name {k : RelationshipKind} (h : k.Canonical) :
    parse k.name = k := by
  cases k with
  | other s => exact h.parse_eq s rfl
  | _ => decide

theorem MessageKind.parse_name (k : MessageKind) : parse k.name = k := by
  cases k <;> decide

theorem eq_of_kind? {α : Type} {default k : α} {parse : String → α} {value : Option Json}
    (h : kind? default parse value = some k) : k = default ∨ ∃ raw, k = parse raw := by
  unfold kind? at h
  split at h
  · exact .inl (Option.some.inj h).symm
  · exact .inl (Option.some.inj h).symm
  · exact .inr ⟨_, (Option.some.inj h).symm⟩
  · exact absurd h (Option.some_ne_none k).symm

/-! ## Records

For each record, that what is read is canonical, and that a canonical one is read back. -/

theorem ClassEntry.canonical_ofJson? {value : Json} {c : ClassEntry} (h : ofJson? value = some c) :
    c.Canonical := by
  simp only [ofJson?, Option.bind_eq_bind, Option.bind_eq_some_iff, Option.pure_def,
    Option.some.injEq] at h
  obtain ⟨record, -, name, hname, rfl⟩ := h
  obtain ⟨v, -, hv⟩ := hname
  exact ⟨isName_of_text? hv, fun a => isName_of_mem_texts, fun m => isName_of_mem_texts⟩

theorem ClassEntry.Canonical.ofJson?_toJson {c : ClassEntry} (h : c.Canonical) :
    ofJson? c.toJson = some c := by
  have hname : text? (.string c.name) = some c.name := h.name.trimmed?_eq
  have hattributes := texts_toJson h.attributes
  have hmethods := texts_toJson h.methods
  simp [ofJson?, toJson, record?, List.lookup_cons, hname, hattributes, hmethods]

theorem Relationship.canonical_ofJson? {value : Json} {r : Relationship}
    (h : ofJson? value = some r) : r.Canonical := by
  simp only [ofJson?, Option.bind_eq_bind, Option.bind_eq_some_iff, Option.pure_def,
    Option.some.injEq] at h
  obtain ⟨record, -, source, ⟨v, -, hv⟩, target, ⟨w, -, hw⟩, kind, hkind, rfl⟩ := h
  -- the kind of a missing tag is a known one, and any other kind was read from a text
  have hkind : kind.Canonical := by
    rcases eq_of_kind? hkind with rfl | ⟨raw, hraw⟩
    · exact ⟨by simp, by simp⟩
    · exact hraw ▸ RelationshipKind.canonical_parse raw
  exact ⟨isName_of_text? hv, isName_of_text? hw, hkind, trim_optionalText _⟩

theorem Relationship.Canonical.ofJson?_toJson {r : Relationship} (h : r.Canonical) :
    ofJson? r.toJson = some r := by
  have hsource : text? (.string r.source) = some r.source := h.source.trimmed?_eq
  have htarget : text? (.string r.target) = some r.target := h.target.trimmed?_eq
  have hkind :
      kind? .association RelationshipKind.parse (some (.string r.kind.name)) = some r.kind :=
    congrArg some h.kind.parse_name
  have hlabel := optionalText_string h.label
  simp [ofJson?, toJson, record?, List.lookup_cons, hsource, htarget, hkind, hlabel]

/-! ### Use-case diagrams -/

theorem Participation.canonical_ofJson? {value : Json} {p : Participation}
    (h : ofJson? value = some p) : p.Canonical := by
  simp only [ofJson?, Option.bind_eq_bind, Option.bind_eq_some_iff, Option.pure_def,
    Option.some.injEq] at h
  obtain ⟨record, -, actor, ⟨v, -, hv⟩, useCase, ⟨w, -, hw⟩, rfl⟩ := h
  exact ⟨isName_of_text? hv, isName_of_text? hw⟩

theorem Participation.Canonical.ofJson?_toJson {p : Participation} (h : p.Canonical) :
    ofJson? p.toJson = some p := by
  have hactor : text? (.string p.actor) = some p.actor := h.actor.trimmed?_eq
  have huseCase : text? (.string p.useCase) = some p.useCase := h.useCase.trimmed?_eq
  simp [ofJson?, toJson, record?, List.lookup_cons, hactor, huseCase]

theorem UseCaseLink.canonical_ofJson? {value : Json} {l : UseCaseLink}
    (h : ofJson? value = some l) : l.Canonical := by
  simp only [ofJson?, Option.bind_eq_bind, Option.bind_eq_some_iff, Option.pure_def,
    Option.some.injEq] at h
  obtain ⟨record, -, source, ⟨v, -, hv⟩, target, ⟨w, -, hw⟩, rfl⟩ := h
  exact ⟨isName_of_text? hv, isName_of_text? hw⟩

theorem UseCaseLink.Canonical.ofJson?_toJson {l : UseCaseLink} (h : l.Canonical) :
    ofJson? l.toJson = some l := by
  have hsource : text? (.string l.source) = some l.source := h.source.trimmed?_eq
  have htarget : text? (.string l.target) = some l.target := h.target.trimmed?_eq
  simp [ofJson?, toJson, record?, List.lookup_cons, hsource, htarget]

/-! ### Sequence diagrams -/

theorem Message.canonical_ofJson? {value : Json} {m : Message} (h : ofJson? value = some m) :
    m.Canonical := by
  simp only [ofJson?, Option.bind_eq_bind, Option.bind_eq_some_iff, Option.pure_def,
    Option.some.injEq] at h
  obtain ⟨record, -, source, ⟨v, -, hv⟩, target, ⟨w, -, hw⟩, kind, -, rfl⟩ := h
  exact ⟨isName_of_text? hv, isName_of_text? hw, trim_optionalText _⟩

theorem Message.Canonical.ofJson?_toJson {m : Message} (h : m.Canonical) :
    ofJson? m.toJson = some m := by
  have hsource : text? (.string m.source) = some m.source := h.source.trimmed?_eq
  have htarget : text? (.string m.target) = some m.target := h.target.trimmed?_eq
  have htext := optionalText_string h.text
  have hkind : kind? .sync MessageKind.parse (some (.string m.kind.name)) = some m.kind :=
    congrArg some m.kind.parse_name
  simp [ofJson?, toJson, record?, List.lookup_cons, hsource, htarget, htext, hkind]

theorem Activation.canonical_ofJson? {value : Json} {a : Activation}
    (h : ofJson? value = some a) : a.Canonical := by
  simp only [ofJson?, Option.bind_eq_bind, Option.bind_eq_some_iff, Option.pure_def,
    Option.some.injEq] at h
  obtain ⟨record, -, participant, ⟨v, -, hv⟩, rfl⟩ := h
  exact ⟨isName_of_text? hv⟩

theorem Activation.Canonical.ofJson?_toJson {a : Activation} (h : a.Canonical) :
    ofJson? a.toJson = some a := by
  have hparticipant : text? (.string a.participant) = some a.participant :=
    h.participant.trimmed?_eq
  simp [ofJson?, toJson, record?, List.lookup_cons, hparticipant, flag]

/-! ## Models -/

theorem ClassModel.canonical_ofRecord (record : List (String × Json)) :
    (ofRecord record).Canonical where
  classes := forall_mem_items (fun _ _ => ClassEntry.canonical_ofJson?) _
  relationships := forall_mem_items (fun _ _ => Relationship.canonical_ofJson?) _

theorem UseCaseModel.canonical_ofRecord (record : List (String × Json)) :
    (ofRecord record).Canonical where
  actors _ := isName_of_mem_texts
  useCases _ := isName_of_mem_texts
  associations := forall_mem_items (fun _ _ => Participation.canonical_ofJson?) _
  includes := forall_mem_items (fun _ _ => UseCaseLink.canonical_ofJson?) _
  extensions := forall_mem_items (fun _ _ => UseCaseLink.canonical_ofJson?) _

theorem SequenceModel.canonical_ofRecord (record : List (String × Json)) :
    (ofRecord record).Canonical where
  participants _ := isName_of_mem_texts
  messages := forall_mem_items (fun _ _ => Message.canonical_ofJson?) _
  activations := forall_mem_items (fun _ _ => Activation.canonical_ofJson?) _

/-- What is read of a payload is the model of the record that the payload is. -/
theorem Model.ofJson_eq_ok_iff {kind : DiagramKind} {value : Json} {m : Model} :
    ofJson kind value = .ok m ↔
      ∃ record, record? kind.fields value = some record ∧ m = ofRecord record kind := by
  unfold ofJson
  cases record? kind.fields value with
  | none => simp
  | some record => simp [eq_comm]

/-- **Whatever is read of a payload is canonical.** -/
theorem Model.canonical_ofJson {kind : DiagramKind} {value : Json} {m : Model}
    (h : ofJson kind value = .ok m) : m.Canonical := by
  obtain ⟨record, -, rfl⟩ := ofJson_eq_ok_iff.mp h
  cases kind with
  | classes => exact ClassModel.canonical_ofRecord record
  | useCases => exact UseCaseModel.canonical_ofRecord record
  | sequence => exact SequenceModel.canonical_ofRecord record

theorem ClassModel.Canonical.ofJson_toJson {m : ClassModel} (h : m.Canonical) :
    Model.ofJson .classes m.toJson = .ok (.classes m) := by
  have hclasses := items_map fun c hc => (h.classes c hc).ofJson?_toJson
  have hrelationships := items_map fun r hr => (h.relationships r hr).ofJson?_toJson
  simp [Model.ofJson, Model.ofRecord, ofRecord, toJson, record?, List.lookup_cons, hclasses,
    hrelationships]

theorem UseCaseModel.Canonical.ofJson_toJson {m : UseCaseModel} (h : m.Canonical) :
    Model.ofJson .useCases m.toJson = .ok (.useCases m) := by
  have hactors := texts_toJson h.actors
  have huseCases := texts_toJson h.useCases
  have hassociations := items_map fun p hp => (h.associations p hp).ofJson?_toJson
  have hincludes := items_map fun l hl => (h.includes l hl).ofJson?_toJson
  have hextensions := items_map fun l hl => (h.extensions l hl).ofJson?_toJson
  simp [Model.ofJson, Model.ofRecord, ofRecord, toJson, record?, List.lookup_cons, hactors,
    huseCases, hassociations, hincludes, hextensions]

theorem SequenceModel.Canonical.ofJson_toJson {m : SequenceModel} (h : m.Canonical) :
    Model.ofJson .sequence m.toJson = .ok (.sequence m) := by
  have hparticipants := texts_toJson h.participants
  have hmessages := items_map fun g hg => (h.messages g hg).ofJson?_toJson
  have hactivations := items_map fun a ha => (h.activations a ha).ofJson?_toJson
  simp [Model.ofJson, Model.ofRecord, ofRecord, toJson, record?, List.lookup_cons, hparticipants,
    hmessages, hactivations]

/-- **A canonical model is read back from its encoding.** -/
theorem Model.Canonical.ofJson_toJson {m : Model} (h : m.Canonical) :
    ofJson m.kind m.toJson = .ok m := by
  cases m with
  | classes m => exact ClassModel.Canonical.ofJson_toJson h
  | useCases m => exact UseCaseModel.Canonical.ofJson_toJson h
  | sequence m => exact SequenceModel.Canonical.ofJson_toJson h

theorem Model.kind_ofJson {kind : DiagramKind} {value : Json} {m : Model}
    (h : ofJson kind value = .ok m) : m.kind = kind := by
  obtain ⟨record, -, rfl⟩ := ofJson_eq_ok_iff.mp h
  cases kind <;> rfl

/-- **Reading normalizes.** What is read is canonical; exactly the canonical models are read
back from their encodings; and so reading once more what was read and written gives the
same again, faults included. -/
theorem Model.ofJson_normalizes :
    (∀ kind value m, ofJson kind value = .ok m → m.Canonical) ∧
      (∀ m : Model, ofJson m.kind m.toJson = .ok m ↔ m.Canonical) ∧
      ∀ kind value,
        ((ofJson kind value).bind fun m => ofJson kind m.toJson) = ofJson kind value := by
  refine ⟨fun _ _ _ => canonical_ofJson, fun m => ⟨canonical_ofJson, Canonical.ofJson_toJson⟩, ?_⟩
  intro kind value
  cases h : ofJson kind value with
  | error e => rfl
  | ok m =>
    have hround := (canonical_ofJson h).ofJson_toJson
    rwa [kind_ofJson h] at hround

/-- A payload in which nearly everything is amiss: texts with blanks, a number and a list in
one string for names, a lone object for a list, and a kind that is not known. -/
theorem Model.ofJson_normalizes_loose_payload :
    ofJson .classes (.array [.array [.array [.number (.integer 7), .string " id,, total : Int "]],
        .object [("from", .string " A"), ("to", .bool true), ("type", .string "\tUses it ")]])
      = .ok (.classes ⟨[⟨"7", ["id", "total : Int"], []⟩], [⟨"A", "true", .other "Uses it", ""⟩]⟩) ∧
    (Model.classes
      ⟨[⟨"7", ["id", "total : Int"], []⟩], [⟨"A", "true", .other "Uses it", ""⟩]⟩).Canonical :=
  have h := by decide
  ⟨h, ofJson_normalizes.1 _ _ _ h⟩

end Draftsman
