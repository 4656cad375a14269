/-
Every statement of a diagram is one line of its source.

The strings of a model reach the source through a handful of functions, and each of them
leaves a text without line breaks: what is tidied is on one line, and what is quoted, turned
into an identifier or put behind a colon has been tidied before. So the source, cut at its
line feeds, gives back exactly the lines that the model was drawn with, as many as its lists
call for, and none of them looks like the frame (`render_lines`).
-/
import Draftsman.Proofs.Markup.Tokens
import Draftsman.Proofs.Markup.UseCases
import Draftsman.Proofs.Text.Cutting
import Mathlib.Algebra.GroupWithZero.Nat

set_option autoImplicit false

namespace Draftsman.Markup

open Draftsman.Text

/-! ## Texts on one line -/

/-- A text without line breaks. -/
def Unbroken (text : List Char) : Prop := ∀ c ∈ text, isLineBreak c = false

-- decided on the characters of the text, and not on all characters there are
instance : DecidablePred Unbroken := fun text => List.decidableBAll (isLineBreak · = false) text

theorem Unbroken.append {a b : List Char} (ha : Unbroken a) (hb : Unbroken b) : Unbroken (a ++ b) :=
  List.forall_mem_append.mpr ⟨ha, hb⟩

theorem Unbroken.cons {c : Char} {cs : List Char} (hc : isLineBreak c = false)
    (hcs : Unbroken cs) : Unbroken (c :: cs) :=
  List.forall_mem_cons.mpr ⟨hc, hcs⟩

theorem Unbroken.not_mem {text : List Char} (h : Unbroken text) {c : Char}
    (hc : isLineBreak c = true) : c ∉ text := by
  intro hmem
  rw [h c hmem] at hc
  exact Bool.false_ne_true hc

/-- A tidy text is on one line: what is joined stood between the line breaks. -/
theorem unbroken_tidy (text : String) : Unbroken (tidy text) := by
  have hspace : Unbroken [' '] := by decide
  refine forall_mem_intercalate hspace fun piece hpiece c hc => ?_
  exact (forall_mem_splitOnP (List.mem_filter.mp hpiece).1 c hc).2

theorem not_isLineBreak_of_isIdentifierPart {c : Char} (h : isIdentifierPart c = true) :
    isLineBreak c = false := by
  by_contra hbreak
  rw [isLineBreak, Bool.not_eq_false, Bool.or_eq_true, beq_iff_eq, beq_iff_eq] at hbreak
  rcases hbreak with rfl | rfl
  · exact absurd h (by decide)
  · exact absurd h (by decide)

theorem unbroken_of_isIdentifier {token : List Char} (h : isIdentifier token = true) :
    Unbroken token := fun c hc =>
  not_isLineBreak_of_isIdentifierPart (forall_mem_of_isIdentifier h c hc)

theorem unbroken_enquote_tidy (name : String) : Unbroken (enquote (tidy name)) := by
  have hsoft : Unbroken (softenQuotes (tidy name)) := by
    intro c hc
    obtain ⟨d, hd, rfl⟩ := List.mem_map.mp hc
    split_ifs
    · rfl
    · exact unbroken_tidy name d hd
  exact (hsoft.append (by decide)).cons rfl

theorem unbroken_written (name : String) : Unbroken (written name) := by
  rw [written]
  split_ifs
  · exact unbroken_tidy name
  · exact unbroken_enquote_tidy name

theorem unbroken_labelClause (label : String) : Unbroken (labelClause label) := by
  rw [labelClause]
  split
  · decide
  · exact Unbroken.append (by decide) (unbroken_tidy label)

theorem unbroken_memberText (raw : String) : Unbroken (memberText raw) := by
  rw [memberText]
  split_ifs
  · exact unbroken_tidy raw
  · exact (unbroken_tidy raw).cons rfl

theorem unbroken_methodText (raw : String) : Unbroken (methodText raw) := by
  rw [methodText]
  split_ifs
  · exact unbroken_memberText raw
  · exact (unbroken_memberText raw).append (by decide)

/-! ## Lines of a body -/

/-- A line that may stand in the body of a diagram: it is one line, and does not begin like
the frame. -/
structure Inner (line : List Char) : Prop where
  unbroken : Unbroken line
  first : line.head? ≠ some '@'

/-- What follows on the same line does not matter. -/
theorem Inner.append {a b : List Char} (ha : Inner a) (hne : a ≠ []) (hb : Unbroken b) :
    Inner (a ++ b) := by
  refine ⟨ha.unbroken.append hb, ?_⟩
  rw [List.head?_append_of_ne_nil _ hne]
  exact ha.first

theorem inner_append_of_isToken {token rest : List Char} (h : IsToken token)
    (htoken : Unbroken token) (hrest : Unbroken rest) : Inner (token ++ rest) := by
  obtain ⟨c, cs, rfl, hc⟩ := h.exists_cons
  refine ⟨htoken.append hrest, fun hfirst => ?_⟩
  rw [List.cons_append, List.head?_cons, Option.some.injEq] at hfirst
  rcases hc with rfl | hpart
  · exact absurd hfirst (by decide)
  · rw [hfirst] at hpart
    exact absurd hpart (by decide)

theorem inner_append_of_isIdentifier {id rest : List Char} (hid : isIdentifier id = true)
    (hrest : Unbroken rest) : Inner (id ++ rest) :=
  inner_append_of_isToken (.bare hid) (unbroken_of_isIdentifier hid) hrest

/-! ## Class diagrams -/

/-- What stands between the two ends of a relation. -/
def Arrow.text : Arrow → List Char
  | inheritance => " <|-- ".toList
  | composition => " *-- ".toList
  | aggregation => " o-- ".toList
  | counted near far =>
    " \"".toList ++ near.toList ++ "\" --> \"".toList ++ far.toList ++ "\" ".toList
  | plain => " --> ".toList

theorem Arrow.text_counted (near far : String) : (Arrow.counted near far).text =
    " \"".toList ++ near.toList ++ "\" --> \"".toList ++ far.toList ++ "\" ".toList := rfl

/-- The arrows that relationships are drawn with. -/
def arrows : List Arrow :=
  [.inheritance, .composition, .aggregation, .counted "1" "1", .counted "1" "*",
    .counted "*" "1", .counted "*" "*", .plain]

theorem arrow_mem_arrows (kind : RelationshipKind) : arrow kind ∈ arrows := by
  cases kind with
  | other name => exact List.mem_of_getLast? rfl
  | _ => decide

/-- Any line of a relation is one end, the arrow and the other end, and then the label unless
the arrow is that of an inheritance, which has its ends exchanged. -/
theorem relationLine_eq (source target : List Char) (a : Arrow) (label : List Char) :
    relationLine source target a label =
      if a = .inheritance then target ++ (a.text ++ source)
      else source ++ (a.text ++ (target ++ label)) := by
  cases a with
  | inheritance => exact List.append_assoc ..
  | composition | aggregation | plain =>
    show source ++ _ ++ target ++ label = _
    rw [List.append_assoc, List.append_assoc]
    rfl
  | counted near far =>
    show source ++ _ ++ _ ++ _ ++ _ ++ _ ++ target ++ label = _
    rw [if_neg Arrow.noConfusion, Arrow.text_counted]
    simp only [List.append_assoc]

theorem inner_relationshipStatement (r : Relationship) :
    Inner (relationshipStatement r).line := by
  have hsource := unbroken_written r.source
  have htarget := unbroken_written r.target
  have hall : ∀ a ∈ arrows, Unbroken a.text := by decide
  have htext := hall (arrow r.kind) (arrow_mem_arrows r.kind)
  show Inner (relationLine (written r.source) (written r.target) (arrow r.kind)
    (labelClause r.label))
  rw [relationLine_eq]
  split_ifs
  · exact inner_append_of_isToken (isToken_written r.target) htarget (htext.append hsource)
  · exact inner_append_of_isToken (isToken_written r.source) hsource
      (htext.append (htarget.append (unbroken_labelClause r.label)))

theorem inner_of_mem_classStatements {c : ClassEntry} {s : ClassStatement}
    (hs : s ∈ classStatements c) : Inner s.line := by
  have hmember : ∀ text : List Char, Unbroken text → Inner (ClassStatement.member text).line :=
    fun text htext => Inner.append ⟨by decide, by decide⟩ (by decide) htext
  rw [classStatements, List.mem_cons, List.mem_append, List.mem_append, List.mem_singleton] at hs
  rcases hs with rfl | (hs | hs) | rfl
  -- the name, an attribute, the methods below their line, the end
  · refine Inner.append (Inner.append ⟨by decide, by decide⟩ (by decide) ?_)
      (List.append_ne_nil_of_left_ne_nil (by decide) _) (by decide)
    exact unbroken_written c.name
  · obtain ⟨a, -, rfl⟩ := List.mem_map.mp hs
    exact hmember _ (unbroken_memberText a)
  · split_ifs at hs
    · exact absurd hs List.not_mem_nil
    · rcases List.mem_cons.mp hs with rfl | hs
      · exact ⟨by decide, by decide⟩
      · obtain ⟨m, -, rfl⟩ := List.mem_map.mp hs
        exact hmember _ (unbroken_methodText m)
  · exact ⟨by decide, by decide⟩

theorem length_classStatements (c : ClassEntry) : (classStatements c).length =
    2 + c.attributes.length + (if c.methods = [] then 0 else 1 + c.methods.length) := by
  rw [classStatements, List.length_cons, List.length_append, List.length_append, List.length_map,
    List.length_singleton]
  cases c.methods with
  | nil =>
    simp
    omega
  | cons m ms =>
    simp
    omega

/-! ## Use-case diagrams -/

theorem inner_of_mem_useCaseDiagram {m : UseCaseModel} {s : UseCaseStatement}
    (hs : s ∈ useCaseDiagram m) : Inner s.line := by
  have h := wellFormed_declareElements m
  have huseCase : ∀ name, Unbroken ((declareElements m).useCase name) := fun name =>
    unbroken_of_isIdentifier (h.isIdentifier_useCase name)
  -- a declaration is a keyword and the name as it is shown, then the identifier
  have hdeclaration : ∀ d ∈ (declareElements m).actors ++ (declareElements m).useCases,
      ∀ keyword : List Char, Inner keyword → keyword ≠ [] →
        Inner (keyword ++ enquote (tidy d.1) ++ " as ".toList ++ d.2) := by
    intro d hd keyword hkeyword hne
    have hname := hkeyword.append hne (unbroken_enquote_tidy d.1)
    refine (hname.append (by simp [hne]) (by decide)).append (by simp [hne]) ?_
    exact unbroken_of_isIdentifier (h.ids_isIdentifier d hd)
  -- an edge begins with the identifier of its first end
  have hlink : ∀ source target : String, ∀ clause : List Char, Unbroken clause →
      Inner ((declareElements m).useCase source ++ " ..> ".toList
        ++ (declareElements m).useCase target ++ clause) := by
    intro source target clause hclause
    rw [List.append_assoc, List.append_assoc]
    exact inner_append_of_isIdentifier (h.isIdentifier_useCase source)
      (Unbroken.append (by decide) ((huseCase target).append hclause))
  simp only [useCaseDiagram, List.mem_cons, List.mem_append] at hs
  rcases hs with rfl | ((((hs | hs) | hs) | hs) | hs)
  · exact ⟨by decide, by decide⟩
  · obtain ⟨d, hd, rfl⟩ := List.mem_map.mp hs
    exact hdeclaration d (List.mem_append_left _ hd) "actor ".toList ⟨by decide, by decide⟩
      (by decide)
  · rw [boundaryStatements] at hs
    split_ifs at hs
    · exact absurd hs List.not_mem_nil
    · rw [List.mem_cons, List.mem_append, List.mem_singleton] at hs
      rcases hs with rfl | hs | rfl
      · exact ⟨by decide, by decide⟩
      · obtain ⟨d, hd, rfl⟩ := List.mem_map.mp hs
        exact hdeclaration d (List.mem_append_right _ hd) "  usecase ".toList
          ⟨by decide, by decide⟩ (by decide)
      · exact ⟨by decide, by decide⟩
  · obtain ⟨a, -, rfl⟩ := List.mem_map.mp hs
    show Inner ((declareElements m).actor a.actor ++ " --> ".toList
      ++ (declareElements m).useCase a.useCase)
    rw [List.append_assoc]
    exact inner_append_of_isIdentifier (h.isIdentifier_actor a.actor)
      (Unbroken.append (by decide) (huseCase a.useCase))
  · obtain ⟨l, -, rfl⟩ := List.mem_map.mp hs
    exact hlink l.source l.target " : <<include>>".toList (by decide)
  · obtain ⟨l, -, rfl⟩ := List.mem_map.mp hs
    exact hlink l.source l.target " : <<extend>>".toList (by decide)

theorem length_boundaryStatements (m : UseCaseModel) :
    (boundaryStatements (declareElements m).useCases).length =
      if m.useCases = [] then 0 else 2 + m.useCases.eraseDups.length := by
  have h := wellFormed_declareElements m
  have hlength := congrArg List.length h.useCases
  rw [List.length_map] at hlength
  by_cases hempty : m.useCases = []
  · rw [boundaryStatements, if_pos (h.useCases_isEmpty.mpr hempty), if_pos hempty, List.length_nil]
  · rw [boundaryStatements, if_neg (mt h.useCases_isEmpty.mp hempty), if_neg hempty,
      List.length_cons, List.length_append, List.length_map, List.length_singleton, hlength]
    omega

/-! ## Sequence diagrams -/

theorem isIdentifier_keyword (r : Role) : isIdentifier r.keyword.toList = true := by
  cases r <;> decide

theorem inner_of_mem_sequenceDiagram {m : SequenceModel} {s : SequenceStatement}
    (hs : s ∈ sequenceDiagram m) : Inner s.line := by
  have hreference : ∀ name, Unbroken (reference name) := fun name =>
    unbroken_of_isIdentifier (isIdentifier_reference name)
  have hdeclaration : ∀ name text, Unbroken text →
      Inner ((role name).keyword.toList ++ ' ' :: text) := by
    intro name _ htext
    exact inner_append_of_isIdentifier (isIdentifier_keyword (role name)) (htext.cons rfl)
  rw [sequenceDiagram, List.mem_append, List.mem_append] at hs
  rcases hs with (hs | hs) | hs
  · obtain ⟨name, -, rfl⟩ := List.mem_map.mp hs
    rw [participantStatement]
    split_ifs
    · exact hdeclaration name _ (unbroken_tidy name)
    · refine hdeclaration name _ (((unbroken_enquote_tidy name).append (by decide)).append ?_)
      exact unbroken_of_isIdentifier (isIdentifier_aliasOf name)
  · obtain ⟨x, -, rfl⟩ := List.mem_map.mp hs
    have hmarks : ∀ kind : MessageKind, Unbroken (messageArrow kind).toList ∧
        Unbroken (lifeMark kind).toList := by
      intro kind
      cases kind <;> decide
    obtain ⟨harrow, hmark⟩ := hmarks x.kind
    show Inner (reference x.source ++ (messageArrow x.kind).toList ++ reference x.target
      ++ (lifeMark x.kind).toList ++ labelClause x.text)
    rw [List.append_assoc, List.append_assoc, List.append_assoc]
    refine inner_append_of_isIdentifier (isIdentifier_reference x.source) ?_
    exact harrow.append ((hreference x.target).append (hmark.append (unbroken_labelClause x.text)))
  · obtain ⟨a, -, rfl⟩ := List.mem_map.mp hs
    have hverb : ∀ ends : Bool, Inner (if ends then "deactivate " else "activate ").toList ∧
        (if ends then "deactivate " else "activate ").toList ≠ [] := by
      intro ends
      cases ends with
      | true => exact ⟨⟨by decide, by decide⟩, by decide⟩
      | false => exact ⟨⟨by decide, by decide⟩, by decide⟩
    exact (hverb a.deactivate).1.append (hverb a.deactivate).2 (hreference a.participant)

/-! ## The source -/

/-- How many lines a model is drawn with, between those of the frame. It depends on the lengths
of the lists of the model, and in a use-case diagram on which names come again. -/
def bodyCount : Model → Nat
  | .classes m =>
    (m.classes.map fun c =>
      2 + c.attributes.length + (if c.methods = [] then 0 else 1 + c.methods.length)).sum
      + m.relationships.length
  | .useCases m =>
    1 + m.actors.eraseDups.length
      + (if m.useCases = [] then 0 else 2 + m.useCases.eraseDups.length)
      + (m.associations.length + m.includes.length + m.extensions.length)
  | .sequence m => m.participants.length + m.messages.length + m.activations.length

theorem inner_of_mem_body {m : Model} {line : List Char} (h : line ∈ body m) : Inner line := by
  cases m with
  | classes m =>
    obtain ⟨s, hs, rfl⟩ := List.mem_map.mp h
    rcases List.mem_append.mp hs with hs | hs
    · obtain ⟨c, -, hs⟩ := List.mem_flatMap.mp hs
      exact inner_of_mem_classStatements hs
    · obtain ⟨r, -, rfl⟩ := List.mem_map.mp hs
      exact inner_relationshipStatement r
  | useCases m =>
    obtain ⟨s, hs, rfl⟩ := List.mem_map.mp h
    exact inner_of_mem_useCaseDiagram hs
  | sequence m =>
    obtain ⟨s, hs, rfl⟩ := List.mem_map.mp h
    exact inner_of_mem_sequenceDiagram hs

theorem length_body (m : Model) : (body m).length = bodyCount m := by
  cases m with
  | classes m =>
    rw [body, bodyCount, List.length_map, classDiagram, List.length_append, List.length_flatMap,
      List.length_map]
    simp only [length_classStatements]
  | useCases m =>
    have h := wellFormed_declareElements m
    have hactors := congrArg List.length h.actors
    rw [List.length_map] at hactors
    simp only [body, bodyCount, useCaseDiagram, List.length_map, List.length_cons,
      List.length_append, length_boundaryStatements, hactors]
    omega
  | sequence m =>
    simp only [body, bodyCount, sequenceDiagram, List.length_map, List.length_append]

section Frame

variable {lines : List (List Char)} (h : ∀ line ∈ lines, Unbroken line)
include h

theorem unbroken_of_mem_framed :
    ∀ line ∈ "@startuml".toList :: (lines ++ ["@enduml".toList]), Unbroken line := by
  intro line hline
  rw [List.mem_cons, List.mem_append, List.mem_singleton] at hline
  rcases hline with rfl | hline | rfl
  · decide
  · exact h line hline
  · decide

/-- The source, cut at its line feeds, gives the lines of the frame and those between them. -/
theorem splitOn_frame :
    (frame lines).toList.splitOn '\n' = "@startuml".toList :: (lines ++ ["@enduml".toList]) := by
  rw [frame, String.toList_ofList]
  refine List.splitOn_intercalate '\n' (fun line hline => ?_) (List.cons_ne_nil _ _)
  exact (unbroken_of_mem_framed h line hline).not_mem rfl

theorem return_not_mem_frame : '\r' ∉ (frame lines).toList := by
  rw [frame, String.toList_ofList]
  intro hmem
  refine forall_mem_intercalate (P := (· ≠ '\r')) ?_ ?_ '\r' hmem rfl
  · exact List.forall_mem_singleton.mpr (by decide)
  intro line hline c hc hreturn
  exact (unbroken_of_mem_framed h line hline).not_mem (c := c) (by rw [hreturn]; rfl) hc

end Frame

theorem unbroken_of_mem_body {m : Model} {line : List Char} (h : line ∈ body m) :
    Unbroken line :=
  (inner_of_mem_body h).unbroken

/-- What is not drawn as asked is one comment. -/
theorem exists_bodyAs_eq {m : Model} {type : String}
    (h : DiagramKind.parse? type ≠ some m.kind) :
    ∃ text, bodyAs m type = ['\'' :: text] ∧ Unbroken ('\'' :: text) := by
  rw [bodyAs]
  cases hkind : DiagramKind.parse? type with
  | none =>
    refine ⟨_, rfl, Unbroken.cons rfl (Unbroken.cons rfl ?_)⟩
    exact Unbroken.append (by decide) (unbroken_tidy type)
  | some kind =>
    have hne : kind ≠ m.kind := fun heq => h (by rw [hkind, heq])
    have hname : ∀ k : DiagramKind, Unbroken k.name.toList := by
      intro k
      cases k <;> decide
    dsimp only
    rw [if_neg hne]
    refine ⟨_, rfl, Unbroken.cons rfl (Unbroken.cons rfl ?_)⟩
    rw [String.toList_append, String.toList_append, String.toList_append]
    exact (((hname m.kind).append (by decide)).append (hname kind)).append (by decide)

/-- **The lines of any diagram.** Whatever the strings of a model hold, its source cut at the
line feeds is the first line of the frame, the lines of the body, and the last line of the
frame. The body has as many lines as the lists of the model call for; none of them begins with
an `@`, and no line holds a carriage return. A model that cannot be drawn as the kind of diagram
that is asked for, or is asked for by a name that is no kind's, is drawn as one comment. -/
theorem render_lines (m : Model) :
    (render m).toList.splitOn '\n' = "@startuml".toList :: (body m ++ ["@enduml".toList]) ∧
    (body m).length = bodyCount m ∧
    (∀ line ∈ body m, line.head? ≠ some '@') ∧
    '\r' ∉ (render m).toList ∧
    ∀ type,
      (DiagramKind.parse? type = some m.kind → renderAs m type = render m) ∧
      (DiagramKind.parse? type ≠ some m.kind → ∃ text,
        (renderAs m type).toList.splitOn '\n' =
          ["@startuml".toList, '\'' :: text, "@enduml".toList] ∧
        '\r' ∉ (renderAs m type).toList) := by
  have hbody : ∀ line ∈ body m, Unbroken line := fun line hline => unbroken_of_mem_body hline
  refine ⟨splitOn_frame hbody, length_body m, fun line hline => (inner_of_mem_body hline).first,
    return_not_mem_frame hbody, fun type => ⟨fun htype => ?_, fun htype => ?_⟩⟩
  · rw [renderAs, bodyAs, htype]
    dsimp only
    rw [if_pos rfl, render]
  · obtain ⟨text, hcomment, htext⟩ := exists_bodyAs_eq htype
    have hlines : ∀ line ∈ ['\'' :: text], Unbroken line := fun line hline =>
      List.mem_singleton.mp hline ▸ htext
    rw [renderAs, hcomment]
    exact ⟨text, splitOn_frame hlines, return_not_mem_frame hlines⟩

/-- Names and attributes that would end the diagram, or begin another line of it. -/
example : render (.classes ⟨[⟨"A\n@enduml", ["x\r\ny", "\" \x7b"], []⟩], []⟩) =
    "@startuml\nclass \"A @enduml\" \x7b\n  +x y\n  +\" \x7b\n\x7d\n@enduml" := by
  decide +kernel

end Draftsman.Markup
