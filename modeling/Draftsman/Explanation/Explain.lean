/-
Explaining a model to a reader.

An explanation lists what a model declares, in the words of the model. It says nothing
that the diagram does not show.
-/
import Draftsman.Diagram.Model
import Draftsman.Explanation.Html

set_option autoImplicit false

namespace Draftsman.Explanation

/-! ## Parts -/

/-- A line feed between elements; it only makes the fragment easier to read. -/
def lineFeed : Html := .text "\n"

/-- An element that holds a text. -/
def labelled (tag : Tag) (content : String) : Html := .element tag [.text content]

/-- Several texts as one, with commas between them. -/
def joined (items : List String) : String := String.intercalate ", " items

/-- A list with each item on a line of its own. -/
def listing (tag : Tag) (items : List Fragment) : Html :=
  .element tag (lineFeed :: items.flatMap fun item => [.element .li item, lineFeed])

/-- The text that stands for a model without content. -/
def nothingFound (what : String) : Fragment :=
  [labelled .p ("No " ++ what ++ " were identified in the model.")]

/-- The title of every explanation. -/
def overview : Html := labelled .h3 "Diagram Overview"

/-- Texts with commas between them, or a remark that there are none. -/
def joinedOr (remark : String) (items : List String) : Html :=
  if items.isEmpty then labelled .i remark else .text (joined items)

/-! ## Class diagrams -/

/-- A class and its attributes. -/
def classItem (c : ClassEntry) : Fragment :=
  [labelled .strong c.name, .text " has the attributes: ",
    joinedOr "no attributes" c.attributes]

/-- A relationship, told by its label if it has one. -/
def relationshipItem (r : Relationship) : Fragment :=
  [labelled .strong r.source, .text " ",
    labelled .em (if r.label = "" then "relates to" else r.label), .text " ",
    labelled .strong r.target, .text " (", labelled .code r.kind.name, .text ")"]

/-- A class diagram. Without classes its relationships are not mentioned. -/
def explainClasses (m : ClassModel) : Fragment :=
  if m.classes.isEmpty then nothingFound "classes"
  else
    [overview, lineFeed, labelled .h4 "Classes:", lineFeed,
      listing .ul (m.classes.map classItem)]
    ++ (if m.relationships.isEmpty then []
      else [lineFeed, labelled .h4 "Relationships:", lineFeed,
        listing .ul (m.relationships.map relationshipItem)])

/-! ## Use-case diagrams -/

/-- The use cases that an actor takes part in. -/
def goals (m : UseCaseModel) (actor : String) : List String :=
  (m.associations.filter fun a => a.actor == actor).map Participation.useCase

/-- An actor and what it can do. -/
def actorItem (m : UseCaseModel) (actor : String) : Fragment :=
  [labelled .strong actor, .text " can: ", joinedOr "no use cases" (goals m actor)]

/-- A use-case diagram. -/
def explainUseCases (m : UseCaseModel) : Fragment :=
  if m.actors.isEmpty && m.useCases.isEmpty then nothingFound "actors or use cases"
  else
    [overview, lineFeed, labelled .h4 "Actors:", lineFeed,
      listing .ul (m.actors.map (actorItem m)), lineFeed,
      labelled .h4 "Use cases:", lineFeed,
      listing .ul (m.useCases.map fun u => [.text u])]

/-! ## Sequence diagrams -/

/-- A message and its kind. -/
def messageItem (m : Message) : Fragment :=
  [labelled .strong m.source, .text " to ", labelled .strong m.target, .text ": ",
    .text m.text, .text " (", labelled .code m.kind.name, .text ")"]

/-- A sequence diagram. -/
def explainSequence (m : SequenceModel) : Fragment :=
  if m.messages.isEmpty then nothingFound "messages"
  else
    [overview, lineFeed, labelled .p ("Participants: " ++ joined m.participants), lineFeed,
      labelled .h4 "Messages:", lineFeed, listing .ol (m.messages.map messageItem)]

/-! ## Any kind -/

/-- The explanation of a model as a fragment. -/
def fragment : Model → Fragment
  | .classes m => explainClasses m
  | .useCases m => explainUseCases m
  | .sequence m => explainSequence m

/-- The explanation of a model. -/
def explain (model : Model) : String := (fragment model).render

end Draftsman.Explanation
