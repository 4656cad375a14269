/-
Models as JSON, the form in which they are exchanged and stored.

Every field of a record is written, empty or not, in a fixed order. Which of the three
kinds a model is of does not show; it is told apart from the model.
-/
import Draftsman.Diagram.Model
import Draftsman.Json.Printer

set_option autoImplicit false

namespace Draftsman

/-- A list of texts as JSON. -/
def Json.texts (items : List String) : Json := .array (items.map .string)

/-! ## Class diagrams -/

/-- A class as JSON. -/
def ClassEntry.toJson (c : ClassEntry) : Json :=
  .object [("name", .string c.name), ("attributes", .texts c.attributes),
    ("methods", .texts c.methods)]

/-- A relationship as JSON. -/
def Relationship.toJson (r : Relationship) : Json :=
  .object [("from", .string r.source), ("to", .string r.target), ("type", .string r.kind.name),
    ("label", .string r.label)]

/-- A class diagram as JSON. -/
def ClassModel.toJson (m : ClassModel) : Json :=
  .object [("classes", .array (m.classes.map ClassEntry.toJson)),
    ("relationships", .array (m.relationships.map Relationship.toJson))]

/-! ## Use-case diagrams -/

/-- A participation as JSON. -/
def Participation.toJson (p : Participation) : Json :=
  .object [("actor", .string p.actor), ("use_case", .string p.useCase)]

/-- A dependency between use cases as JSON. -/
def UseCaseLink.toJson (l : UseCaseLink) : Json :=
  .object [("from", .string l.source), ("to", .string l.target)]

/-- A use-case diagram as JSON. -/
def UseCaseModel.toJson (m : UseCaseModel) : Json :=
  .object [("actors", .texts m.actors), ("use_cases", .texts m.useCases),
    ("associations", .array (m.associations.map Participation.toJson)),
    ("includes", .array (m.includes.map UseCaseLink.toJson)),
    ("extends", .array (m.extensions.map UseCaseLink.toJson))]

/-! ## Sequence diagrams -/

/-- A message as JSON. -/
def Message.toJson (m : Message) : Json :=
  .object [("from", .string m.source), ("to", .string m.target), ("message", .string m.text),
    ("type", .string m.kind.name)]

/-- An activation as JSON. -/
def Activation.toJson (a : Activation) : Json :=
  .object [("participant", .string a.participant), ("deactivate", .bool a.deactivate)]

/-- A sequence diagram as JSON. -/
def SequenceModel.toJson (m : SequenceModel) : Json :=
  .object [("participants", .texts m.participants),
    ("messages", .array (m.messages.map Message.toJson)),
    ("activations", .array (m.activations.map Activation.toJson))]

/-! ## Any kind -/

/-- A model as JSON. -/
def Model.toJson : Model → Json
  | classes m => m.toJson
  | useCases m => m.toJson
  | sequence m => m.toJson

/-- The text of a model, as it is shown to people and to the completion service. -/
def Model.text (m : Model) : String := m.toJson.pretty

end Draftsman
