/-
When the participants of a sequence diagram can be told apart.

Every participant is declared under its alias, for the alias of an identifier is that
identifier. An alias keeps the plain letters and the digits of a name and nothing else, and
participants, unlike the elements of a use-case diagram, take their aliases as they come. So
two participants whose names differ in the other characters alone are one in the diagram
(`hyphen_for_space_merges`), and all participants are drawn apart exactly if no two
of their names look alike in this sense (`participants_apart_iff`).
-/
import Draftsman.Markup.Diagram
import Draftsman.Proofs.Markup.Identifiers

set_option autoImplicit false

namespace Draftsman.Markup

open Draftsman.Text

/-! ## Names that look alike -/

/-- What stands for a character in an alias. -/
def standIn (c : Char) : Char := if isIdentifierPart c then c else '_'

/-- A text that does not begin with a digit: if it would, or if it is empty, an underscore is
put in front of it. -/
def grounded : List Char → List Char
  | [] => ['_']
  | c :: cs => if isPlainDigit c then '_' :: c :: cs else c :: cs

/-- Two characters that an alias does not tell apart. -/
def Alike (c d : Char) : Prop :=
  c = d ∨ isPlainAlphanumeric c = false ∧ isPlainAlphanumeric d = false

/-- Two names that agree in place after place, up to characters that are neither letters of the
26 nor digits of the ten. -/
def LookAlike (p q : String) : Prop :=
  List.Forall₂ Alike (grounded (tidy p)) (grounded (tidy q))

theorem standIn_of_isPlainAlphanumeric {c : Char} (h : isPlainAlphanumeric c = true) :
    standIn c = c := by
  rw [standIn, isIdentifierPart, h, Bool.true_or, if_pos rfl]

theorem standIn_of_not_isPlainAlphanumeric {c : Char} (h : isPlainAlphanumeric c = false) :
    standIn c = '_' := by
  rw [standIn, isIdentifierPart, h, Bool.false_or]
  split_ifs with hc
  · exact beq_iff_eq.mp hc
  · rfl

theorem isPlainAlphanumeric_standIn (c : Char) :
    isPlainAlphanumeric (standIn c) = isPlainAlphanumeric c := by
  cases hc : isPlainAlphanumeric c with
  | true => rw [standIn_of_isPlainAlphanumeric hc, hc]
  | false =>
    rw [standIn_of_not_isPlainAlphanumeric hc]
    rfl

theorem standIn_eq_iff {c d : Char} : standIn c = standIn d ↔ Alike c d := by
  constructor
  · intro h
    have hkind : isPlainAlphanumeric c = isPlainAlphanumeric d := by
      rw [← isPlainAlphanumeric_standIn c, h, isPlainAlphanumeric_standIn]
    cases hd : isPlainAlphanumeric d with
    | true =>
      rw [standIn_of_isPlainAlphanumeric (hkind.trans hd), standIn_of_isPlainAlphanumeric hd] at h
      exact .inl h
    | false => exact .inr ⟨hkind.trans hd, hd⟩
  · rintro (rfl | ⟨hc, hd⟩)
    · rfl
    · rw [standIn_of_not_isPlainAlphanumeric hc, standIn_of_not_isPlainAlphanumeric hd]

/-! ## Aliases -/

theorem isPlainDigit_standIn (c : Char) : isPlainDigit (standIn c) = isPlainDigit c := by
  cases hc : isPlainAlphanumeric c with
  | true => rw [standIn_of_isPlainAlphanumeric hc]
  | false =>
    have hdigit : isPlainDigit c = false := (Bool.or_eq_false_iff.mp hc).2
    rw [standIn_of_not_isPlainAlphanumeric hc, hdigit]
    rfl

theorem aliasOf_eq_map (name : String) : aliasOf name = (grounded (tidy name)).map standIn := by
  have hsanitize : sanitize name = (tidy name).map standIn := rfl
  rw [aliasOf, hsanitize]
  cases tidy name with
  | nil => rfl
  | cons c cs =>
    simp only [List.map_cons, isPlainDigit_standIn, grounded]
    split_ifs
    · rfl
    · rfl

theorem aliasOf_eq_iff {p q : String} : aliasOf p = aliasOf q ↔ LookAlike p q := by
  rw [aliasOf_eq_map, aliasOf_eq_map, LookAlike, ← List.forall₂_eq_eq_eq, List.forall₂_map_left_iff,
    List.forall₂_map_right_iff]
  simp only [standIn_eq_iff]

theorem map_standIn_of_isIdentifier {text : List Char} (h : isIdentifier text = true) :
    (grounded text).map standIn = text := by
  cases text with
  | nil => exact absurd h Bool.false_ne_true
  | cons c cs =>
    rw [isIdentifier, Bool.and_eq_true, Bool.or_eq_true, List.all_eq_true] at h
    obtain ⟨hfirst, hrest⟩ := h
    have hdigit : isPlainDigit c = false := by
      rcases hfirst with hletter | hunderscore
      · exact not_isPlainDigit_of_isPlainLetter hletter
      · rw [beq_iff_eq.mp hunderscore]
        rfl
    have hpart : isIdentifierPart c = true := by
      rcases hfirst with hletter | hunderscore
      · exact isIdentifierPart_of_isPlainLetter hletter
      · rw [isIdentifierPart, hunderscore, Bool.or_true]
    have hkeep : ∀ d ∈ c :: cs, standIn d = d := by
      intro d hd
      rcases List.mem_cons.mp hd with rfl | hd
      · exact if_pos hpart
      · exact if_pos (hrest d hd)
    rw [grounded, hdigit, if_neg Bool.false_ne_true]
    exact (List.map_congr_left hkeep).trans (List.map_id' _)

/-- **A participant always goes by its alias**: the alias of an identifier is the identifier. -/
theorem reference_eq_aliasOf (name : String) : reference name = aliasOf name := by
  rw [reference]
  split_ifs with hname
  · rw [aliasOf_eq_map, map_standIn_of_isIdentifier hname]
  · rfl

theorem reference_eq_iff {p q : String} : reference p = reference q ↔ LookAlike p q := by
  rw [reference_eq_aliasOf, reference_eq_aliasOf, aliasOf_eq_iff]

/-! ## The diagram -/

/-- The name under which a statement declares a participant. -/
def SequenceStatement.declared? : SequenceStatement → Option (List Char)
  | declaration _ display id => some (id.getD display)
  | message .. | activation .. => none

theorem declared?_participantStatement (name : String) :
    (participantStatement name).declared? = some (reference name) := by
  rw [participantStatement, reference]
  split_ifs
  · rfl
  · rfl

/-- Every participant is declared under the name by which messages and activations refer to
it. -/
theorem filterMap_declared? (m : SequenceModel) :
    (sequenceDiagram m).filterMap SequenceStatement.declared? = m.participants.map reference := by
  have hparticipants : (m.participants.map participantStatement).filterMap
      SequenceStatement.declared? = m.participants.map reference := by
    rw [List.filterMap_map, ← List.filterMap_eq_map]
    exact List.filterMap_congr fun name _ => declared?_participantStatement name
  have hmessages : (m.messages.map messageStatement).filterMap
      SequenceStatement.declared? = [] := by
    rw [List.filterMap_map]
    exact List.filterMap_eq_nil_iff.mpr fun _ _ => rfl
  have hactivations : (m.activations.map activationStatement).filterMap
      SequenceStatement.declared? = [] := by
    rw [List.filterMap_map]
    exact List.filterMap_eq_nil_iff.mpr fun _ _ => rfl
  rw [sequenceDiagram, List.filterMap_append, List.filterMap_append, hparticipants, hmessages,
    hactivations, List.append_nil, List.append_nil]

/-- **When a sequence diagram tells its participants apart.** They are declared under different
names exactly if no two of them look alike. A message is drawn from a participant to itself
exactly if its sender and its receiver look alike, and it begins, or ends, at exactly those
participants that look like its sender, or its receiver; an activation stands at those that
look like the one it is meant for. -/
theorem participants_apart_iff (m : SequenceModel) :
    let declared := (sequenceDiagram m).filterMap SequenceStatement.declared?
    declared = m.participants.map reference ∧
    (declared.Nodup ↔ m.participants.Pairwise fun p q => ¬ LookAlike p q) ∧
    (∀ x ∈ m.messages, ∃ source target,
      .message source target x.kind (labelClause x.text) ∈ sequenceDiagram m ∧
      (source = target ↔ LookAlike x.source x.target) ∧
      ∀ p, (source = reference p ↔ LookAlike x.source p) ∧
        (target = reference p ↔ LookAlike x.target p)) ∧
    ∀ a ∈ m.activations, ∃ participant,
      .activation participant a.deactivate ∈ sequenceDiagram m ∧
      ∀ p, participant = reference p ↔ LookAlike a.participant p := by
  intro declared
  have hdeclared : declared = m.participants.map reference := filterMap_declared? m
  refine ⟨hdeclared, ?_, fun x hx => ?_, fun a ha => ?_⟩
  · rw [hdeclared, List.Nodup, List.pairwise_map]
    simp only [ne_eq, reference_eq_iff]
  · refine ⟨reference x.source, reference x.target, ?_, reference_eq_iff, fun p => ?_⟩
    · refine List.mem_append_left _ (List.mem_append_right _ ?_)
      exact List.mem_map_of_mem (f := messageStatement) hx
    · exact ⟨reference_eq_iff, reference_eq_iff⟩
  · refine ⟨reference a.participant, ?_, fun p => reference_eq_iff⟩
    exact List.mem_append_right _ (List.mem_map_of_mem (f := activationStatement) ha)

/-- A space and a hyphen: two participants with names of their own, and a message that leads
from the first to the second, is drawn as a message of one participant to itself. -/
theorem hyphen_for_space_merges :
    let m : SequenceModel := ⟨["A B", "A-B"], [⟨"A B", "A-B", "hello", .sync⟩], []⟩
    (∀ p ∈ m.participants, p ≠ "" ∧ trim p = p) ∧ m.participants.Nodup ∧
    ¬ ((sequenceDiagram m).filterMap SequenceStatement.declared?).Nodup ∧
    body (.sequence m) = ["participant \"A B\" as A_B".toList,
      "participant \"A-B\" as A_B".toList, "A_B -> A_B : hello".toList] := by
  decide +kernel

end Draftsman.Markup
