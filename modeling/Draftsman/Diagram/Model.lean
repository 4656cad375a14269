/-
Diagram models: what a diagram says, apart from how it is drawn.

The order of classes, use cases and messages means something (it is the order of the
drawing), so all parts are lists. Nothing here requires names to be distinct or
references to be declared: a model may come from a service that makes mistakes.
-/
import Draftsman.Diagram.Kind

set_option autoImplicit false

namespace Draftsman

/-! ## Class diagrams -/

/-- A class with its attributes and methods. -/
structure ClassEntry where
  name : String
  attributes : List String
  methods : List String
deriving DecidableEq, Repr

/-- A directed relationship between two classes. -/
structure Relationship where
  source : String
  target : String
  kind : RelationshipKind
  label : String
deriving DecidableEq, Repr

/-- A class diagram. -/
structure ClassModel where
  classes : List ClassEntry
  relationships : List Relationship
deriving DecidableEq, Repr

/-- The item at the end of the list, unless it is there already. -/
def appendNew (item : String) (items : List String) : List String :=
  if items.contains item then items else items ++ [item]

namespace ClassEntry

/-- A class of which only the name is known. -/
def named (name : String) : ClassEntry := ⟨name, [], []⟩

/-- The class with one more attribute, unless it has that one. -/
def addAttribute (c : ClassEntry) (item : String) : ClassEntry :=
  { c with attributes := appendNew item c.attributes }

/-- The class with one more method, unless it has that one. -/
def addMethod (c : ClassEntry) (item : String) : ClassEntry :=
  { c with methods := appendNew item c.methods }

end ClassEntry

namespace ClassModel

/-- The diagram without classes. -/
def empty : ClassModel := ⟨[], []⟩

/-- The class of the given name; of several the first. -/
def find? (m : ClassModel) (name : String) : Option ClassEntry :=
  m.classes.find? (fun c => c.name == name)

/-- Changes the first class of the given name in a list of classes; if there is none, a
new class of that name is put at the end and changed. -/
def updateIn (name : String) (change : ClassEntry → ClassEntry) :
    List ClassEntry → List ClassEntry
  | [] => [change (.named name)]
  | c :: rest => if c.name == name then change c :: rest else c :: updateIn name change rest

/-- `updateIn` on the classes of a diagram. -/
def update (m : ClassModel) (name : String) (change : ClassEntry → ClassEntry) : ClassModel :=
  { m with classes := updateIn name change m.classes }

/-- The diagram with a class of the given name. -/
def ensure (m : ClassModel) (name : String) : ClassModel := m.update name id

/-- The diagram in which the class of the given name has the attribute. -/
def addAttribute (m : ClassModel) (name item : String) : ClassModel :=
  m.update name (·.addAttribute item)

/-- The diagram in which the class of the given name has the method. -/
def addMethod (m : ClassModel) (name item : String) : ClassModel :=
  m.update name (·.addMethod item)

/-- The diagram with one more relationship, unless one of that kind already leads from
the same class to the same class. -/
def addRelationship (m : ClassModel) (r : Relationship) : ClassModel :=
  if m.relationships.any (fun q => q.source == r.source && q.target == r.target && q.kind == r.kind)
  then m
  else { m with relationships := m.relationships ++ [r] }

end ClassModel

/-! ## Use-case diagrams -/

/-- An actor who takes part in a use case. -/
structure Participation where
  actor : String
  useCase : String
deriving DecidableEq, Repr

/-- A dependency of one use case on another. -/
structure UseCaseLink where
  source : String
  target : String
deriving DecidableEq, Repr

/-- A use-case diagram. -/
structure UseCaseModel where
  actors : List String
  useCases : List String
  associations : List Participation
  includes : List UseCaseLink
  extensions : List UseCaseLink
deriving DecidableEq, Repr

/-- The diagram without actors and use cases. -/
def UseCaseModel.empty : UseCaseModel := ⟨[], [], [], [], []⟩

/-! ## Sequence diagrams -/

/-- A message from one participant to another. -/
structure Message where
  source : String
  target : String
  text : String
  kind : MessageKind
deriving DecidableEq, Repr

/-- The beginning or the end of a participant's activity. -/
structure Activation where
  participant : String
  deactivate : Bool
deriving DecidableEq, Repr

/-- A sequence diagram. -/
structure SequenceModel where
  participants : List String
  messages : List Message
  activations : List Activation
deriving DecidableEq, Repr

/-- The diagram without participants. -/
def SequenceModel.empty : SequenceModel := ⟨[], [], []⟩

/-! ## Models of any kind -/

/-- A model of one of the three kinds. -/
inductive Model where
  | classes (model : ClassModel)
  | useCases (model : UseCaseModel)
  | sequence (model : SequenceModel)
deriving DecidableEq, Repr

namespace Model

/-- The kind of diagram that a model describes. -/
def kind : Model → DiagramKind
  | classes _ => .classes
  | useCases _ => .useCases
  | sequence _ => .sequence

/-- The model of a kind that says nothing. -/
def empty : DiagramKind → Model
  | .classes => classes .empty
  | .useCases => useCases .empty
  | .sequence => sequence .empty

/-- How many things the model declares: classes, actors and use cases, or participants. -/
def entityCount : Model → Nat
  | classes m => m.classes.length
  | useCases m => m.actors.length + m.useCases.length
  | sequence m => m.participants.length

end Model

end Draftsman
