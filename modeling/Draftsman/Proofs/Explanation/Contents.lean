/-
What an explanation says.

An explanation is given a second time as a flat list of tags, each with the text behind it:
fixed words with the strings of the model between them. Main statement (`read_explain`):
the text of an explanation is read back as exactly that list. So every `<` and every `&` in
it was put there by the explanation and not by a string of the model, the tags are balanced
and nested, and the strings come back unchanged. Which tags there are does not hang on the
strings at all, only on the number of items and on what each of them has (`Alike`).
-/
import Draftsman.Explanation.Explain
import Draftsman.Proofs.Explanation.Fragments

set_option autoImplicit false

namespace Draftsman.Explanation

/-! ## Pieces -/

/-- A tag and the text between it and the next one. -/
abbrev Piece := Mark × List Char

/-- An element that holds nothing but a text, and the text behind the element. -/
def element (tag : Tag) (content after : String) : List Piece :=
  [(.opening tag, content.toList), (.closing tag, after.toList)]

/-- An item of a list, with the text that it begins with. Items end their lines. -/
def item (lead : String) (inner : List Piece) : List Piece :=
  (.opening .li, lead.toList) :: inner ++ [(.closing .li, "\n".toList)]

/-- A list that begins on a line of its own, and the text behind it. -/
def list (tag : Tag) (items : List (List Piece)) (after : String) : List Piece :=
  (.opening tag, "\n".toList) :: items.flatten ++ [(.closing tag, after.toList)]

/-- A heading, followed by a line feed. -/
def heading (tag : Tag) (text : String) : List Piece := element tag text "\n"

/-! ## The three explanations -/

/-- A class: its name and its attributes with a comma and a space between them. -/
def classPieces (c : ClassEntry) : List Piece :=
  item "" <|
    if c.attributes = [] then
      element .strong c.name " has the attributes: " ++ element .i "no attributes" ""
    else element .strong c.name (" has the attributes: " ++ ", ".intercalate c.attributes)

/-- A relationship: from where, its label or other words for it, to where, and its kind. -/
def relationshipPieces (r : Relationship) : List Piece :=
  item "" <|
    element .strong r.source " " ++
    element .em (if r.label = "" then "relates to" else r.label) " " ++
    element .strong r.target " (" ++ element .code r.kind.name ")"

/-- What is read from the explanation of a class diagram. -/
def classContents (m : ClassModel) : List Piece :=
  if m.classes = [] then element .p "No classes were identified in the model." ""
  else
    heading .h3 "Diagram Overview" ++ heading .h4 "Classes:" ++
    if m.relationships = [] then list .ul (m.classes.map classPieces) ""
    else
      list .ul (m.classes.map classPieces) "\n" ++ heading .h4 "Relationships:" ++
      list .ul (m.relationships.map relationshipPieces) ""

/-- An actor and the use cases that it is associated with, in the order of the associations. -/
def actorPieces (associations : List Participation) (actor : String) : List Piece :=
  let goals := associations.filter fun a => a.actor == actor
  item "" <|
    if goals = [] then element .strong actor " can: " ++ element .i "no use cases" ""
    else element .strong actor (" can: " ++ ", ".intercalate (goals.map Participation.useCase))

/-- What is read from the explanation of a use-case diagram. -/
def useCaseContents (m : UseCaseModel) : List Piece :=
  if m.actors = [] ∧ m.useCases = [] then
    element .p "No actors or use cases were identified in the model." ""
  else
    heading .h3 "Diagram Overview" ++ heading .h4 "Actors:" ++
    list .ul (m.actors.map (actorPieces m.associations)) "\n" ++ heading .h4 "Use cases:" ++
    list .ul (m.useCases.map fun useCase => item useCase []) ""

/-- A message: from whom, to whom, what it says and its kind. -/
def messagePieces (m : Message) : List Piece :=
  item "" <|
    element .strong m.source " to " ++ element .strong m.target (": " ++ m.text ++ " (") ++
    element .code m.kind.name ")"

/-- What is read from the explanation of a sequence diagram. -/
def sequenceContents (m : SequenceModel) : List Piece :=
  if m.messages = [] then element .p "No messages were identified in the model." ""
  else
    heading .h3 "Diagram Overview" ++
    heading .p ("Participants: " ++ ", ".intercalate m.participants) ++
    heading .h4 "Messages:" ++ list .ol (m.messages.map messagePieces) ""

/-- What is read from an explanation. -/
def contents : Model → List Piece
  | .classes m => classContents m
  | .useCases m => useCaseContents m
  | .sequence m => sequenceContents m

/-! ## From the tree to the pieces -/

theorem enter_text (content : String) (r : Reading) :
    (Html.text content).enter r = ⟨content.toList ++ r.lead, r.rest⟩ := by
  rw [Html.enter]

theorem enter_lineFeed (r : Reading) : lineFeed.enter r = ⟨"\n".toList ++ r.lead, r.rest⟩ :=
  enter_text "\n" r

theorem enter_labelled (tag : Tag) (content : String) (r : Reading) :
    (labelled tag content).enter r =
      ⟨[], (.opening tag, content.toList) :: (.closing tag, r.lead) :: r.rest⟩ := by
  simp [labelled, Html.enter, Html.enterAll, Reading.mark]

/-- A fragment in front of a tag is read as a text and the pieces behind it. -/
def ReadAs (f : Fragment) (lead : String) (inner : List Piece) : Prop :=
  ∀ rest, Html.enterAll f ⟨[], rest⟩ = ⟨lead.toList, inner ++ rest⟩

section Listing

variable {α : Type} {fragment : α → Fragment} {pieces : α → List Piece}

theorem enterAll_items
    (h : ∀ x, ∃ lead inner, pieces x = item lead inner ∧ ReadAs (fragment x) lead inner)
    (xs : List α) (rest : List Piece) :
    Html.enterAll ((xs.map fragment).flatMap fun item => [.element .li item, lineFeed])
        ⟨[], rest⟩ =
      ⟨[], (xs.map pieces).flatten ++ rest⟩ := by
  induction xs with
  | nil => simp [Html.enterAll]
  | cons x xs ih =>
      -- the tag that ends the item keeps its last text apart from what stands behind it
      obtain ⟨lead, inner, hpieces, hread⟩ := h x
      rw [List.map_cons, List.flatMap_cons, List.map_cons, List.flatten_cons, hpieces]
      simp only [List.cons_append, List.nil_append, Html.enterAll, ih, enter_lineFeed,
        List.append_nil, Html.enter, Reading.mark, item]
      rw [hread]
      simp

/-- A list is read item by item if every item is read alike whatever stands behind it. -/
theorem enter_listing
    (h : ∀ x, ∃ lead inner, pieces x = item lead inner ∧ ReadAs (fragment x) lead inner)
    (tag : Tag) (xs : List α) (r : Reading) :
    (listing tag (xs.map fragment)).enter r =
      ⟨[], (.opening tag, "\n".toList) :: (xs.map pieces).flatten ++
        (.closing tag, r.lead) :: r.rest⟩ := by
  rw [listing, Html.enter, Html.enterAll, enter_lineFeed, Reading.mark, Reading.mark,
    enterAll_items h, List.append_nil]
  rfl

end Listing

theorem readAs_classItem (c : ClassEntry) :
    ∃ lead inner, classPieces c = item lead inner ∧ ReadAs (classItem c) lead inner := by
  refine ⟨_, _, rfl, fun rest => ?_⟩
  simp only [classItem, joinedOr, joined, Html.enterAll, List.isEmpty_iff]
  split
  · simp only [enter_labelled, enter_text]
    rfl
  · simp only [enter_labelled, enter_text, List.append_nil, element, String.toList_append]
    rfl

theorem readAs_relationshipItem (r : Relationship) :
    ∃ lead inner, relationshipPieces r = item lead inner ∧
      ReadAs (relationshipItem r) lead inner := by
  refine ⟨_, _, rfl, fun rest => ?_⟩
  simp only [relationshipItem, Html.enterAll, enter_labelled, enter_text, List.append_nil]
  rfl

theorem readAs_actorItem (m : UseCaseModel) (actor : String) :
    ∃ lead inner, actorPieces m.associations actor = item lead inner ∧
      ReadAs (actorItem m actor) lead inner := by
  refine ⟨_, _, rfl, fun rest => ?_⟩
  simp only [actorItem, goals, joinedOr, joined, Html.enterAll, List.isEmpty_iff,
    List.map_eq_nil_iff]
  split
  · simp only [enter_labelled, enter_text]
    rfl
  · simp only [enter_labelled, enter_text, List.append_nil, element, String.toList_append]
    rfl

theorem readAs_useCase (useCase : String) :
    ∃ lead inner, item useCase [] = item lead inner ∧ ReadAs [.text useCase] lead inner := by
  refine ⟨_, _, rfl, fun rest => ?_⟩
  rw [Html.enterAll, Html.enterAll, enter_text, List.append_nil]
  rfl

theorem readAs_messageItem (m : Message) :
    ∃ lead inner, messagePieces m = item lead inner ∧ ReadAs (messageItem m) lead inner := by
  refine ⟨_, _, rfl, fun rest => ?_⟩
  simp only [messageItem, Html.enterAll, enter_labelled, enter_text, List.append_nil, element,
    String.toList_append, List.append_assoc]
  rfl

theorem enterAll_nothingFound (what : String) :
    Html.enterAll (nothingFound what) .empty =
      ⟨[], element .p ("No " ++ what ++ " were identified in the model.") ""⟩ := by
  rw [nothingFound, Html.enterAll, Html.enterAll, enter_labelled]
  rfl

theorem enterAll_explainClasses (m : ClassModel) :
    Html.enterAll (explainClasses m) .empty = ⟨[], classContents m⟩ := by
  unfold explainClasses classContents
  by_cases hclasses : m.classes = []
  · rw [if_pos hclasses, if_pos (List.isEmpty_iff.2 hclasses), enterAll_nothingFound]
    rfl
  · rw [if_neg hclasses, if_neg (mt List.isEmpty_iff.1 hclasses)]
    by_cases hrelationships : m.relationships = []
    · rw [if_pos hrelationships, if_pos (List.isEmpty_iff.2 hrelationships)]
      simp only [List.append_nil, Html.enterAll, overview, enter_labelled, enter_lineFeed,
        enter_listing readAs_classItem]
      rfl
    · rw [if_neg hrelationships, if_neg (mt List.isEmpty_iff.1 hrelationships)]
      simp only [List.cons_append, List.nil_append, Html.enterAll, overview, enter_labelled,
        enter_lineFeed, enter_listing readAs_classItem, enter_listing readAs_relationshipItem]
      simp [list, heading, element, Reading.empty]

theorem enterAll_explainUseCases (m : UseCaseModel) :
    Html.enterAll (explainUseCases m) .empty = ⟨[], useCaseContents m⟩ := by
  unfold explainUseCases useCaseContents
  by_cases hempty : m.actors = [] ∧ m.useCases = []
  · rw [if_pos hempty, if_pos (by simp [hempty]), enterAll_nothingFound]
    rfl
  · rw [if_neg hempty, if_neg (by simpa [List.isEmpty_iff] using hempty)]
    simp only [Html.enterAll, overview, enter_labelled, enter_lineFeed,
      enter_listing (readAs_actorItem m), enter_listing readAs_useCase]
    simp [list, heading, element, Reading.empty]

theorem enterAll_explainSequence (m : SequenceModel) :
    Html.enterAll (explainSequence m) .empty = ⟨[], sequenceContents m⟩ := by
  unfold explainSequence sequenceContents
  by_cases hempty : m.messages = []
  · rw [if_pos hempty, if_pos (List.isEmpty_iff.2 hempty), enterAll_nothingFound]
    rfl
  · rw [if_neg hempty, if_neg (mt List.isEmpty_iff.1 hempty)]
    simp only [Html.enterAll, overview, joined, enter_labelled, enter_lineFeed,
      enter_listing readAs_messageItem]
    rfl

theorem enterAll_fragment (m : Model) :
    Html.enterAll (fragment m) .empty = ⟨[], contents m⟩ := by
  cases m with
  | classes m => exact enterAll_explainClasses m
  | useCases m => exact enterAll_explainUseCases m
  | sequence m => exact enterAll_explainSequence m

/-! ## Which tags there are -/

/-- Models of one kind with equally many items, where classes in the same place both have
attributes or both have none, and actors in the same place have the same associations.
Nothing is said of the strings in them, and whether a relationship has a label makes no
difference either. -/
def Alike : Model → Model → Prop
  | .classes m, .classes n =>
    m.classes.map (·.attributes.isEmpty) = n.classes.map (·.attributes.isEmpty) ∧
      m.relationships.length = n.relationships.length
  | .useCases m, .useCases n =>
    m.actors.map (fun actor => m.associations.map (·.actor == actor)) =
        n.actors.map (fun actor => n.associations.map (·.actor == actor)) ∧
      m.useCases.length = n.useCases.length
  | .sequence m, .sequence n => m.messages.length = n.messages.length
  | _, _ => False

/-- The tags of pieces. -/
def tagsOf (pieces : List Piece) : List Mark := pieces.map Prod.fst

@[simp] theorem tagsOf_append (as bs : List Piece) : tagsOf (as ++ bs) = tagsOf as ++ tagsOf bs :=
  List.map_append

@[simp] theorem tagsOf_element (tag : Tag) (content after : String) :
    tagsOf (element tag content after) = [.opening tag, .closing tag] := rfl

@[simp] theorem tagsOf_heading (tag : Tag) (text : String) :
    tagsOf (heading tag text) = [.opening tag, .closing tag] := rfl

@[simp] theorem tagsOf_item (lead : String) (inner : List Piece) :
    tagsOf (item lead inner) = .opening .li :: tagsOf inner ++ [.closing .li] := by
  simp [tagsOf, item]

@[simp] theorem tagsOf_list (tag : Tag) (items : List (List Piece)) (after : String) :
    tagsOf (list tag items after) =
      .opening tag :: (items.map tagsOf).flatten ++ [.closing tag] := by
  simp only [tagsOf, list, List.map_append, List.map_cons, List.map_flatten]
  rfl

theorem eq_nil_iff_of_length_eq {α β : Type} {xs : List α} {ys : List β}
    (h : xs.length = ys.length) : xs = [] ↔ ys = [] := by
  rw [← List.length_eq_zero_iff, h, List.length_eq_zero_iff]

/-- If the tags of an item hang on no more than a key of it, then lists with the same keys
have items with the same tags. -/
theorem map_tagsOf_eq {α β γ : Type} {f : α → List Piece} {g : β → List Piece} {k : α → γ}
    {l : β → γ} (hkey : ∀ x y, k x = l y → tagsOf (f x) = tagsOf (g y)) :
    ∀ {xs : List α} {ys : List β}, xs.map k = ys.map l →
      (xs.map f).map tagsOf = (ys.map g).map tagsOf
  | [], [], _ => rfl
  | x :: xs, y :: ys, h => by
      obtain ⟨hhead, htail⟩ := List.cons.inj h
      simp only [List.map_cons, hkey x y hhead, map_tagsOf_eq hkey htail]

theorem map_tagsOf_eq_of_length {α β : Type} {f : α → List Piece} {g : β → List Piece}
    (hitem : ∀ x y, tagsOf (f x) = tagsOf (g y)) {xs : List α} {ys : List β}
    (h : xs.length = ys.length) : (xs.map f).map tagsOf = (ys.map g).map tagsOf := by
  refine map_tagsOf_eq (k := fun _ => ()) (l := fun _ => ()) (fun x y _ => hitem x y) ?_
  rw [List.map_const', List.map_const', h]

theorem tagsOf_classPieces {c d : ClassEntry} (h : c.attributes.isEmpty = d.attributes.isEmpty) :
    tagsOf (classPieces c) = tagsOf (classPieces d) := by
  have hiff : c.attributes = [] ↔ d.attributes = [] := by
    rw [← List.isEmpty_iff, ← List.isEmpty_iff, h]
  simp only [classPieces, tagsOf_item, apply_ite tagsOf, tagsOf_append, tagsOf_element, hiff]

theorem tagsOf_relationshipPieces (r s : Relationship) :
    tagsOf (relationshipPieces r) = tagsOf (relationshipPieces s) := by
  simp only [relationshipPieces, tagsOf_item, tagsOf_append, tagsOf_element]

theorem tagsOf_messagePieces (m n : Message) :
    tagsOf (messagePieces m) = tagsOf (messagePieces n) := by
  simp only [messagePieces, tagsOf_item, tagsOf_append, tagsOf_element]

theorem tagsOf_actorPieces {as bs : List Participation} {actor other : String}
    (h : as.map (·.actor == actor) = bs.map (·.actor == other)) :
    tagsOf (actorPieces as actor) = tagsOf (actorPieces bs other) := by
  -- an actor has no use cases if it matches no association
  have hiff : (as.filter fun a => a.actor == actor) = [] ↔
      (bs.filter fun a => a.actor == other) = [] := by
    have hnone : ∀ (cs : List Participation) (name : String),
        (cs.filter fun a => a.actor == name) = [] ↔ true ∉ cs.map (·.actor == name) := by
      intro cs name
      simp [List.filter_eq_nil_iff]
    rw [hnone, hnone, h]
  simp only [actorPieces, tagsOf_item, apply_ite tagsOf, tagsOf_append, tagsOf_element, hiff]

theorem tagsOf_classContents {m n : ClassModel} (h : Alike (.classes m) (.classes n)) :
    tagsOf (classContents m) = tagsOf (classContents n) := by
  obtain ⟨hclasses, hrelationships⟩ := h
  have hlength : m.classes.length = n.classes.length := by
    simpa using congrArg List.length hclasses
  simp only [classContents, apply_ite tagsOf, tagsOf_append, tagsOf_element, tagsOf_heading,
    tagsOf_list, eq_nil_iff_of_length_eq hlength, eq_nil_iff_of_length_eq hrelationships,
    map_tagsOf_eq (fun _ _ => tagsOf_classPieces) hclasses,
    map_tagsOf_eq_of_length tagsOf_relationshipPieces hrelationships]

theorem tagsOf_useCaseContents {m n : UseCaseModel} (h : Alike (.useCases m) (.useCases n)) :
    tagsOf (useCaseContents m) = tagsOf (useCaseContents n) := by
  obtain ⟨hactors, huseCases⟩ := h
  have hlength : m.actors.length = n.actors.length := by
    simpa using congrArg List.length hactors
  have hitem : ∀ useCase other : String, tagsOf (item useCase []) = tagsOf (item other []) :=
    fun _ _ => by rw [tagsOf_item, tagsOf_item]
  simp only [useCaseContents, apply_ite tagsOf, tagsOf_append, tagsOf_element, tagsOf_heading,
    tagsOf_list, eq_nil_iff_of_length_eq hlength, eq_nil_iff_of_length_eq huseCases,
    map_tagsOf_eq (fun _ _ => tagsOf_actorPieces) hactors,
    map_tagsOf_eq_of_length hitem huseCases]

theorem tagsOf_sequenceContents {m n : SequenceModel} (h : Alike (.sequence m) (.sequence n)) :
    tagsOf (sequenceContents m) = tagsOf (sequenceContents n) := by
  have hlength : m.messages.length = n.messages.length := h
  simp only [sequenceContents, apply_ite tagsOf, tagsOf_append, tagsOf_element, tagsOf_heading,
    tagsOf_list, eq_nil_iff_of_length_eq hlength,
    map_tagsOf_eq_of_length tagsOf_messagePieces hlength]

theorem tagsOf_contents {m n : Model} (h : Alike m n) :
    tagsOf (contents m) = tagsOf (contents n) := by
  cases m with
  | classes m =>
      cases n with
      | classes n => exact tagsOf_classContents h
      | useCases n => exact h.elim
      | sequence n => exact h.elim
  | useCases m =>
      cases n with
      | classes n => exact h.elim
      | useCases n => exact tagsOf_useCaseContents h
      | sequence n => exact h.elim
  | sequence m =>
      cases n with
      | classes n => exact h.elim
      | useCases n => exact h.elim
      | sequence n => exact tagsOf_sequenceContents h

/-! ## The text of an explanation -/

/-- The text of an explanation has `<` only where a tag begins and `&` only where an entity
begins. It is read as the contents of the model, whose tags are balanced and nested, and
models that are alike have the same tags in their explanations. -/
theorem read_explain (m : Model) :
    Signed (explain m).toList ∧
      read (explain m).toList = some ⟨[], contents m⟩ ∧
      nested [] (tagsOf (contents m)) = true ∧
      ∀ n, Alike m n →
        (read (explain n).toList).map Reading.marks = some (tagsOf (contents m)) := by
  have hread : ∀ n, read (explain n).toList = some ⟨[], contents n⟩ := by
    intro n
    rw [explain, read_render, enterAll_fragment]
  refine ⟨?_, hread m, ?_, fun n halike => ?_⟩
  · rw [explain, Fragment.render, String.toList_ofList]
    exact signed_charsOfList (fragment m)
  · have hbalanced := nested_enterAll (fragment m) [] .empty
    rw [enterAll_fragment] at hbalanced
    exact hbalanced
  · rw [hread n, tagsOf_contents halike]
    rfl

/-- Markup in the name and the attribute of a class does not add tags. -/
theorem marks_read_explain_of_markup :
    Alike (.classes ⟨[⟨"Book", ["title", "isbn"], ["lend()"]⟩], []⟩)
        (.classes ⟨[⟨"<b>", ["</li> & more"], []⟩], []⟩) ∧
      (read (explain (.classes ⟨[⟨"<b>", ["</li> & more"], []⟩], []⟩)).toList).map Reading.marks =
        some (tagsOf (contents
          (.classes ⟨[⟨"Book", ["title", "isbn"], ["lend()"]⟩], []⟩))) :=
  ⟨⟨rfl, rfl⟩, (read_explain _).2.2.2 _ ⟨rfl, rfl⟩⟩

end Draftsman.Explanation
