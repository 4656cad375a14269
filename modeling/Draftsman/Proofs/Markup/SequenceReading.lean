/-
What the source of a sequence diagram says, read back.

The three parts of a sequence diagram follow each other without a mark between them, and a
participant may go by the name of a keyword. Still no line can be taken for another. Every line
begins with an identifier. After the one of a declaration comes a token, after that of a message
an arrow, and the words that begin an activation begin no declaration. In a declaration the token
shows where it ends; in a message the arrow does, then the identifier of the receiver, and what is
left begins with the mark of the receiver's life or with the colon of a label. So a line gives its
statement back (`SequenceStatement.line_inj`), whatever arrows, marks and keywords the names and
labels hold, and two sequence diagrams have the same source exactly if they declare the same
participants, send the same messages and have the same activations.
-/
import Draftsman.Proofs.Markup.ClassReading

set_option autoImplicit false

namespace Draftsman.Markup

open Draftsman.Text

/-! ## The two parts of a line -/

/-- The end of a declaration, which gives the identifier if the name that is shown is none. -/
def asClause : Option (List Char) → List Char
  | none => []
  | some id => " as ".toList ++ id

theorem parted_asClause (id : Option (List Char)) : Parted (asClause id) := by
  cases id with
  | none => exact parted_nil
  | some id => exact parted_cons rfl

theorem asClause_inj {id id' : Option (List Char)} (h : asClause id = asClause id') : id = id' := by
  cases id with
  | none =>
    cases id' with
    | none => rfl
    | some id' => exact absurd h.symm (List.cons_ne_nil _ _)
  | some id =>
    cases id' with
    | none => exact absurd h (List.cons_ne_nil _ _)
    | some id' => exact congrArg some (List.append_cancel_left h)

/-- The end of a message: nothing, or a label after a colon. -/
def IsLabelClause (label : List Char) : Prop := label = [] ∨ ∃ text, label = " : ".toList ++ text

theorem isLabelClause_labelClause (label : String) : IsLabelClause (labelClause label) := by
  rw [labelClause]
  split
  · exact .inl rfl
  · exact .inr ⟨_, rfl⟩

namespace SequenceStatement

/-- The word that the line of a statement begins with. -/
def firstWord : SequenceStatement → List Char
  | declaration role _ _ => role.keyword.toList
  | message source _ _ _ => source
  | activation _ ends => (if ends then "deactivate" else "activate").toList

/-- What follows the first word on the line of a statement. -/
def afterWord : SequenceStatement → List Char
  | declaration _ display id => ' ' :: (display ++ asClause id)
  | message _ target kind label =>
    (messageArrow kind).toList ++ (target ++ ((lifeMark kind).toList ++ label))
  | activation participant _ => ' ' :: participant

/-- A statement whose line can be read back: a name is shown as a token, what is referred to are
identifiers, and a label stands in its clause. -/
def Readable : SequenceStatement → Prop
  | declaration _ display _ => IsToken display
  | message source target _ label =>
    isIdentifier source = true ∧ isIdentifier target = true ∧ IsLabelClause label
  | activation participant _ => isIdentifier participant = true

theorem line_eq (s : SequenceStatement) : s.line = s.firstWord ++ s.afterWord := by
  cases s with
  | declaration role display id =>
    cases id with
    | none =>
      rw [firstWord, afterWord, asClause, List.append_nil]
      rfl
    | some id =>
      rw [firstWord, afterWord, asClause, ← List.append_assoc display]
      rfl
  | message source target kind label =>
    show source ++ _ ++ target ++ _ ++ label = _
    simp only [List.append_assoc, firstWord, afterWord]
  | activation participant ends =>
    cases ends with
    | true => rfl
    | false => rfl

end SequenceStatement

theorem exists_messageArrow_eq_cons (kind : MessageKind) :
    ∃ cs, (messageArrow kind).toList = ' ' :: '-' :: cs := by
  cases kind with
  | sync | create | destroy => exact ⟨"> ".toList, rfl⟩
  | async => exact ⟨">> ".toList, rfl⟩
  | reply => exact ⟨"-> ".toList, rfl⟩

namespace SequenceStatement

variable {s s' : SequenceStatement}

theorem isIdentifier_firstWord (h : s.Readable) : isIdentifier s.firstWord = true := by
  cases s with
  | declaration role display id => exact isIdentifier_keyword role
  | message source target kind label => exact h.1
  | activation participant ends =>
    cases ends with
    | true => rfl
    | false => rfl

theorem parted_afterWord (s : SequenceStatement) : Parted s.afterWord := by
  cases s with
  | declaration role display id => exact parted_cons rfl
  | message source target kind label =>
    obtain ⟨cs, harrow⟩ := exists_messageArrow_eq_cons kind
    rw [afterWord, harrow]
    exact parted_cons rfl
  | activation participant ends => exact parted_cons rfl

/-- **A line shows its first word**, for the word is an identifier and a space follows it. -/
theorem eq_and_eq_of_line_eq (hs : s.Readable) (hs' : s'.Readable) (h : s.line = s'.line) :
    s.firstWord = s'.firstWord ∧ s.afterWord = s'.afterWord := by
  rw [line_eq, line_eq] at h
  exact IsToken.append_inj (.bare (isIdentifier_firstWord hs)) (.bare (isIdentifier_firstWord hs'))
    s.parted_afterWord s'.parted_afterWord h

end SequenceStatement

/-! ## Messages -/

/-- No arrow of a message begins another. -/
theorem messageArrow_append_inj {k k' : MessageKind} {r r' : List Char}
    (h : (messageArrow k).toList ++ r = (messageArrow k').toList ++ r') :
    messageArrow k = messageArrow k' ∧ r = r' := by
  have hall : ∀ k k' : MessageKind, (messageArrow k).toList <+: (messageArrow k').toList →
      (messageArrow k).toList = (messageArrow k').toList := by
    intro k k'
    cases k <;> cases k' <;> decide
  obtain ⟨harrow, hrest⟩ := append_inj_of_prefix (hall k k') (hall k' k) h
  exact ⟨String.toList_inj.mp harrow, hrest⟩

/-- A kind of message is known from its arrow and from what follows the receiver, where a label
does not begin like a mark. -/
theorem lifeMark_append_inj {k k' : MessageKind} {label label' : List Char}
    (hlabel : IsLabelClause label) (hlabel' : IsLabelClause label')
    (harrow : messageArrow k = messageArrow k')
    (h : (lifeMark k).toList ++ label = (lifeMark k').toList ++ label') :
    k = k' ∧ label = label' := by
  have hkind : k = k' := by
    -- kinds with one arrow differ in the second character of their marks, which is no colon
    rcases hlabel with rfl | ⟨text, rfl⟩ <;> rcases hlabel' with rfl | ⟨text', rfl⟩ <;>
      cases k <;> cases k' <;> simp_all [messageArrow, lifeMark]
  rw [hkind] at h
  exact ⟨hkind, List.append_cancel_left h⟩

theorem parted_lifeMark_append {k : MessageKind} {label : List Char}
    (hlabel : IsLabelClause label) : Parted ((lifeMark k).toList ++ label) := by
  cases k with
  | create | destroy => exact parted_cons rfl
  | sync | async | reply =>
    rcases hlabel with rfl | ⟨text, rfl⟩
    · exact parted_nil
    · exact parted_cons rfl

/-! ## Lines of different forms

A keyword or a verb can be the name of a participant too, so the first word alone does not tell
the form of a line. -/

namespace SequenceStatement

variable {s : SequenceStatement} {role : Role} {display source target label token : List Char}
  {id : Option (List Char)} {kind : MessageKind} {ends : Bool}

/-- Where a token follows the first word, the line is that of no message. -/
theorem afterWord_message_ne (htoken : IsToken token) (rest : List Char) :
    (message source target kind label).afterWord ≠ ' ' :: (token ++ rest) := by
  obtain ⟨cs, harrow⟩ := exists_messageArrow_eq_cons kind
  obtain ⟨c, ds, rfl, hc⟩ := htoken.exists_cons
  intro heq
  rw [afterWord, harrow] at heq
  have hdash : '-' = c := (List.cons.inj (List.cons.inj heq).2).1
  rw [← hdash] at hc
  exact absurd hc (by decide)

theorem afterWord_message_ne_activation (htoken : IsToken token) :
    (message source target kind label).afterWord ≠ (activation token ends).afterWord := by
  rw [← List.append_nil (activation token ends).afterWord]
  exact afterWord_message_ne htoken []

theorem firstWord_declaration_ne_activation :
    (declaration role display id).firstWord ≠ (activation token ends).firstWord := by
  have hall : ∀ (r : Role) (verb : Bool),
      r.keyword.toList ≠ (if verb then "deactivate" else "activate").toList := by
    intro r verb
    cases r <;> cases verb <;> decide
  exact hall role ends

/-! ## Statements -/

theorem role_eq_of_keyword_eq {role role' : Role}
    (h : role.keyword.toList = role'.keyword.toList) : role = role' := by
  revert h
  cases role <;> cases role' <;> decide

theorem ends_eq_of_verb_eq {ends ends' : Bool}
    (h : (if ends then "deactivate" else "activate").toList =
      (if ends' then "deactivate" else "activate").toList) : ends = ends' := by
  revert h
  cases ends <;> cases ends' <;> decide

/-- **The line of a statement gives the statement back.** -/
theorem line_inj {s s' : SequenceStatement} (hs : s.Readable) (hs' : s'.Readable)
    (h : s.line = s'.line) : s = s' := by
  obtain ⟨hfirst, hafter⟩ := eq_and_eq_of_line_eq hs hs' h
  -- a message is told from the other forms by what follows the first word, since its sender may
  -- go by a keyword or a verb; the other two are told apart by the first word
  cases s with
  | declaration role display id =>
    cases s' with
    | declaration role' display' id' =>
      obtain ⟨hdisplay, hid⟩ := IsToken.append_inj hs hs' (parted_asClause id)
        (parted_asClause id') (List.cons.inj hafter).2
      rw [role_eq_of_keyword_eq hfirst, hdisplay, asClause_inj hid]
    | message source' target' kind' label' => exact absurd hafter.symm (afterWord_message_ne hs _)
    | activation participant' ends' => exact absurd hfirst firstWord_declaration_ne_activation
  | message source target kind label =>
    cases s' with
    | declaration role' display' id' => exact absurd hafter (afterWord_message_ne hs' _)
    | message source' target' kind' label' =>
      obtain ⟨-, htarget, hlabel⟩ := hs
      obtain ⟨-, htarget', hlabel'⟩ := hs'
      obtain ⟨harrow, hreceiver⟩ := messageArrow_append_inj hafter
      obtain ⟨htargets, hend⟩ := IsToken.append_inj (.bare htarget) (.bare htarget')
        (parted_lifeMark_append hlabel) (parted_lifeMark_append hlabel') hreceiver
      obtain ⟨hkind, hlabels⟩ := lifeMark_append_inj hlabel hlabel' harrow hend
      rw [show source = source' from hfirst, htargets, hkind, hlabels]
    | activation participant' ends' =>
      exact absurd hafter (afterWord_message_ne_activation (.bare hs'))
  | activation participant ends =>
    cases s' with
    | declaration role' display' id' =>
      exact absurd hfirst.symm firstWord_declaration_ne_activation
    | message source' target' kind' label' =>
      exact absurd hafter.symm (afterWord_message_ne_activation (.bare hs))
    | activation participant' ends' =>
      rw [ends_eq_of_verb_eq hfirst, (List.cons.inj hafter).2]

end SequenceStatement

/-! ## From the model -/

theorem participantStatement_eq (name : String) :
    participantStatement name = .declaration (role name) (written name)
      (if isIdentifier (tidy name) then none else some (reference name)) := by
  rw [participantStatement, written, reference]
  split_ifs
  · rfl
  · rfl

theorem readable_of_mem_sequenceDiagram {m : SequenceModel} {s : SequenceStatement}
    (h : s ∈ sequenceDiagram m) : s.Readable := by
  rw [sequenceDiagram, List.mem_append, List.mem_append] at h
  rcases h with (h | h) | h
  · obtain ⟨name, -, rfl⟩ := List.mem_map.mp h
    rw [participantStatement_eq]
    exact isToken_written name
  · obtain ⟨x, -, rfl⟩ := List.mem_map.mp h
    exact ⟨isIdentifier_reference x.source, isIdentifier_reference x.target,
      isLabelClause_labelClause x.text⟩
  · obtain ⟨a, -, rfl⟩ := List.mem_map.mp h
    exact isIdentifier_reference a.participant

/-- What is drawn of a participant: its role, the token that shows its name, and the identifier
under which it is declared. -/
structure SameParticipant (p p' : String) : Prop where
  role : role p = role p'
  display : written p = written p'
  id : reference p = reference p'

/-- What is drawn of a message: the identifiers of its ends, its kind, and the label clause. -/
structure SameMessage (x x' : Message) : Prop where
  source : reference x.source = reference x'.source
  target : reference x.target = reference x'.target
  kind : x.kind = x'.kind
  label : labelClause x.text = labelClause x'.text

/-- What is drawn of an activation: the identifier of the participant, and whether it ends. -/
structure SameActivation (a a' : Activation) : Prop where
  participant : reference a.participant = reference a'.participant
  deactivate : a.deactivate = a'.deactivate

/-- Whether a name is an identifier shows in its token. -/
theorem isIdentifier_written (name : String) :
    isIdentifier (written name) = isIdentifier (tidy name) := by
  rw [written]
  split_ifs with hname
  · rfl
  · rw [Bool.not_eq_true] at hname
    rw [hname]
    rfl

theorem reference_eq_written {name : String} (h : isIdentifier (written name) = true) :
    reference name = written name := by
  rw [isIdentifier_written] at h
  rw [reference, written, if_pos h, if_pos h]

theorem participantStatement_eq_iff {p p' : String} :
    participantStatement p = participantStatement p' ↔ SameParticipant p p' := by
  rw [participantStatement_eq, participantStatement_eq, ← isIdentifier_written,
    ← isIdentifier_written, SequenceStatement.declaration.injEq]
  constructor
  · rintro ⟨hrole, hdisplay, hid⟩
    refine ⟨hrole, hdisplay, ?_⟩
    -- a name that is an identifier is declared without one of its own, and is itself shown
    by_cases hname : isIdentifier (written p) = true
    · rw [reference_eq_written hname, reference_eq_written (hdisplay ▸ hname), hdisplay]
    · rw [if_neg hname, if_neg (hdisplay ▸ hname)] at hid
      exact Option.some.inj hid
  · rintro ⟨hrole, hdisplay, hid⟩
    rw [hdisplay, hid]
    exact ⟨hrole, rfl, rfl⟩

theorem messageStatement_eq_iff {x x' : Message} :
    messageStatement x = messageStatement x' ↔ SameMessage x x' := by
  rw [messageStatement, messageStatement, SequenceStatement.message.injEq]
  constructor
  · rintro ⟨hsource, htarget, hkind, hlabel⟩
    exact ⟨hsource, htarget, hkind, hlabel⟩
  · rintro ⟨hsource, htarget, hkind, hlabel⟩
    exact ⟨hsource, htarget, hkind, hlabel⟩

theorem activationStatement_eq_iff {a a' : Activation} :
    activationStatement a = activationStatement a' ↔ SameActivation a a' := by
  rw [activationStatement, activationStatement, SequenceStatement.activation.injEq]
  constructor
  · rintro ⟨hparticipant, hends⟩
    exact ⟨hparticipant, hends⟩
  · rintro ⟨hparticipant, hends⟩
    exact ⟨hparticipant, hends⟩

/-! ## Diagrams -/

theorem map_eq_map_iff_forall₂ {α β : Type} {f : α → β} {r : α → α → Prop}
    (h : ∀ {a a'}, f a = f a' ↔ r a a') {as as' : List α} :
    as.map f = as'.map f ↔ List.Forall₂ r as as' := by
  rw [← List.forall₂_eq_eq_eq, List.forall₂_map_left_iff, List.forall₂_map_right_iff]
  simp only [h]

theorem map_injOn {α β : Type} {f : α → β} {as as' : List α}
    (hf : ∀ a ∈ as, ∀ a' ∈ as', f a = f a' → a = a') (h : as.map f = as'.map f) : as = as' := by
  induction as generalizing as' with
  | nil => exact (List.map_eq_nil_iff.mp h.symm).symm
  | cons a as ih =>
    obtain ⟨a', as', rfl, ha, hrest⟩ := List.map_eq_cons_iff.mp h.symm
    have hhead : a = a' := hf a List.mem_cons_self a' List.mem_cons_self ha.symm
    have htail : as = as' := ih (fun b hb b' hb' =>
      hf b (List.mem_cons_of_mem a hb) b' (List.mem_cons_of_mem a' hb')) hrest.symm
    rw [hhead, htail]

/-- Whether a statement is that of a message. -/
def SequenceStatement.isMessage : SequenceStatement → Bool
  | message .. => true
  | declaration .. | activation .. => false

/-- **The three parts of a diagram follow each other without a mark, and can be told apart**: the
declarations end where a statement of another form begins, and the messages after them too. -/
theorem sequenceDiagram_eq_iff {m m' : SequenceModel} :
    sequenceDiagram m = sequenceDiagram m' ↔
      m.participants.map participantStatement = m'.participants.map participantStatement ∧
      m.messages.map messageStatement = m'.messages.map messageStatement ∧
      m.activations.map activationStatement = m'.activations.map activationStatement := by
  constructor
  · intro h
    rw [sequenceDiagram, sequenceDiagram, List.append_assoc, List.append_assoc] at h
    have hlater : ∀ m : SequenceModel, ∀ s ∈ (m.messages.map messageStatement
        ++ m.activations.map activationStatement).head?, s.declared?.isSome = false := by
      intro m s hs
      rcases List.mem_append.mp (List.mem_of_mem_head? hs) with hs | hs
      · obtain ⟨x, -, rfl⟩ := List.mem_map.mp hs
        rfl
      · obtain ⟨a, -, rfl⟩ := List.mem_map.mp hs
        rfl
    have hlast : ∀ m : SequenceModel, ∀ s ∈ (m.activations.map activationStatement).head?,
        s.isMessage = false := by
      intro m s hs
      obtain ⟨a, -, rfl⟩ := List.mem_map.mp (List.mem_of_mem_head? hs)
      rfl
    have hdeclared : ∀ m : SequenceModel, ∀ s ∈ m.participants.map participantStatement,
        s.declared?.isSome = true := by
      intro m s hs
      obtain ⟨p, -, rfl⟩ := List.mem_map.mp hs
      rw [declared?_participantStatement, Option.isSome_some]
    have hsent : ∀ m : SequenceModel, ∀ s ∈ m.messages.map messageStatement,
        s.isMessage = true := by
      intro m s hs
      obtain ⟨x, -, rfl⟩ := List.mem_map.mp hs
      rfl
    -- cut first where nothing is declared any more, then where nothing is sent any more
    obtain ⟨hparticipants, hrest⟩ :=
      append_inj_of_cut (hdeclared m) (hdeclared m') (hlater m) (hlater m') h
    exact ⟨hparticipants, append_inj_of_cut (hsent m) (hsent m') (hlast m) (hlast m') hrest⟩
  · rintro ⟨hparticipants, hmessages, hactivations⟩
    rw [sequenceDiagram, sequenceDiagram, hparticipants, hmessages, hactivations]

/-- The lines of a sequence diagram show its statements. -/
theorem body_sequence_eq_iff {m m' : SequenceModel} :
    body (.sequence m) = body (.sequence m') ↔ sequenceDiagram m = sequenceDiagram m' := by
  refine ⟨fun h => ?_, congrArg (List.map SequenceStatement.line)⟩
  exact map_injOn (fun s hs s' hs' => SequenceStatement.line_inj
    (readable_of_mem_sequenceDiagram hs) (readable_of_mem_sequenceDiagram hs')) h

/-- **What a sequence diagram shows.** Two sequence diagrams have the same source exactly if they
have the same number of participants, of which those in the same place have the same role, the same
token for their names and the same identifier; the same number of messages, of which those in the
same place have the same identifiers at their ends, the same kind and the same label clause; and
the same number of activations, of which those in the same place stand at the same identifier and
both begin or both end. -/
theorem render_sequence_eq_iff (m m' : SequenceModel) :
    render (.sequence m) = render (.sequence m') ↔
      List.Forall₂ SameParticipant m.participants m'.participants ∧
      List.Forall₂ SameMessage m.messages m'.messages ∧
      List.Forall₂ SameActivation m.activations m'.activations := by
  have hsource : render (.sequence m) = render (.sequence m') ↔
      body (.sequence m) = body (.sequence m') := ⟨body_eq_of_render_eq, congrArg frame⟩
  rw [hsource, body_sequence_eq_iff, sequenceDiagram_eq_iff,
    map_eq_map_iff_forall₂ participantStatement_eq_iff,
    map_eq_map_iff_forall₂ messageStatement_eq_iff,
    map_eq_map_iff_forall₂ activationStatement_eq_iff]

/-- Participants that go by the words of other lines, and a label made of an arrow and a mark. -/
example : render (.sequence ⟨["actor"], [⟨"activate", "B", "-> C **", .create⟩],
    [⟨"deactivate", true⟩]⟩) =
      "@startuml\nactor actor\nactivate -> B ** : -> C **\ndeactivate deactivate\n@enduml" := by
  decide +kernel

end Draftsman.Markup
