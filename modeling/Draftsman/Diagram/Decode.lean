/-
Reading models from JSON that a language model wrote.

The reader forgives everything inside a payload. An absent or null field is empty, a
scalar of another type becomes a text, and an item without its required fields is left
out. Only the payload itself must be a record: an object, or an array that gives the
fields by position. Whether it looks like a diagram of the kind at all is asked apart from
reading it.
-/
import Draftsman.Diagram.Model
import Draftsman.Json.Error

set_option autoImplicit false

namespace Draftsman

open Draftsman.Text

namespace Lenient

/-! ## Scalars -/

/-- The trimmed text, if there is any. -/
def trimmed? (s : String) : Option String :=
  let t := trim s
  if t = "" then none else some t

/-- The string that an object holds under the given key. -/
def stringAt? (key : String) (members : List (String × Json)) : Option String :=
  (members.lookup key).bind Json.asString?

/-- The text of something that has a name and perhaps a type. -/
def declared? (members : List (String × Json)) : Option String := do
  let name ← (stringAt? "name" members).bind trimmed?
  match (stringAt? "type" members).bind trimmed? with
  | some type => return name ++ ": " ++ type
  | none => return name

/-- The text that a value stands for, never an empty one. -/
def text? : Json → Option String
  | .string s => trimmed? s
  | .number n => some n.text
  | .bool b => some (if b then "true" else "false")
  | .object members => declared? members
  | .null | .array _ => none

/-- A text that need not be given. -/
def optionalText (value : Option Json) : String := (value.bind text?).getD ""

/-- Whether a value says yes: true itself, a word for it, or an integer but zero. -/
def flag : Option Json → Bool
  | some (.bool b) => b
  | some (.string s) => ["true", "yes", "1"].contains (lowerPlainText (trim s))
  | some (.number n) => n.signed?.any (· ≠ 0)
  | _ => false

/-- A name that picks one of several kinds. A null is like an absent name, but any other
value that is no string cannot be read. -/
def kind? {α : Type} (default : α) (parse : String → α) : Option Json → Option α
  | none | some .null => some default
  | some (.string s) => some (parse s)
  | _ => none

/-! ## Lists -/

/-- A list of texts. One string holds several, with commas between them; any other value
alone is a list of one. -/
def texts : Option Json → List String
  | some (.array items) => items.filterMap text?
  | some (.string s) =>
    (s.toList.splitOnP (· == ',')).filterMap fun part => trimmed? (String.ofList part)
  | some value => (text? value).toList
  | none => []

/-- A list of records: the ones that can be read. An object alone is a list of one. -/
def items {α : Type} (read : Json → Option α) : Option Json → List α
  | some (.array items) => items.filterMap read
  | some (.object members) => (read (.object members)).toList
  | _ => []

/-! ## Records -/

/-- The members of a record with the given fields. An array gives the fields in their
order, and may end before the last. -/
def record? (fields : List String) : Json → Option (List (String × Json))
  | .object members => some members
  | .array values => if values.length ≤ fields.length then some (fields.zip values) else none
  | _ => none

/-- Why a value is no record of the given title. -/
def recordFault (title : String) : Json → Json.Mismatch
  | .array values => .invalidLength values.length "fewer elements in array"
  | value => .invalidType (Json.found value) title

end Lenient

open Lenient

/-! ## Class diagrams -/

/-- Reads a class. -/
def ClassEntry.ofJson? (value : Json) : Option ClassEntry := do
  let record ← record? ["name", "attributes", "methods"] value
  let name ← (record.lookup "name").bind text?
  return ⟨name, texts (record.lookup "attributes"), texts (record.lookup "methods")⟩

/-- Reads a relationship. -/
def Relationship.ofJson? (value : Json) : Option Relationship := do
  let record ← record? ["from", "to", "type", "label"] value
  let source ← (record.lookup "from").bind text?
  let target ← (record.lookup "to").bind text?
  let kind ← kind? .association RelationshipKind.parse (record.lookup "type")
  return ⟨source, target, kind, optionalText (record.lookup "label")⟩

/-- The fields of a class diagram. -/
def ClassModel.fields : List String := ["classes", "relationships"]

/-- The class diagram that a record holds. -/
def ClassModel.ofRecord (record : List (String × Json)) : ClassModel :=
  ⟨items ClassEntry.ofJson? (record.lookup "classes"),
    items Relationship.ofJson? (record.lookup "relationships")⟩

/-! ## Use-case diagrams -/

/-- Reads a participation. -/
def Participation.ofJson? (value : Json) : Option Participation := do
  let record ← record? ["actor", "use_case"] value
  let actor ← (record.lookup "actor").bind text?
  let useCase ← (record.lookup "use_case").bind text?
  return ⟨actor, useCase⟩

/-- Reads a dependency between use cases. -/
def UseCaseLink.ofJson? (value : Json) : Option UseCaseLink := do
  let record ← record? ["from", "to"] value
  let source ← (record.lookup "from").bind text?
  let target ← (record.lookup "to").bind text?
  return ⟨source, target⟩

/-- The fields of a use-case diagram. -/
def UseCaseModel.fields : List String :=
  ["actors", "use_cases", "associations", "includes", "extends"]

/-- The use-case diagram that a record holds. -/
def UseCaseModel.ofRecord (record : List (String × Json)) : UseCaseModel :=
  ⟨texts (record.lookup "actors"), texts (record.lookup "use_cases"),
    items Participation.ofJson? (record.lookup "associations"),
    items UseCaseLink.ofJson? (record.lookup "includes"),
    items UseCaseLink.ofJson? (record.lookup "extends")⟩

/-! ## Sequence diagrams -/

/-- Reads a message. -/
def Message.ofJson? (value : Json) : Option Message := do
  let record ← record? ["from", "to", "message", "type"] value
  let source ← (record.lookup "from").bind text?
  let target ← (record.lookup "to").bind text?
  let kind ← kind? .sync MessageKind.parse (record.lookup "type")
  return ⟨source, target, optionalText (record.lookup "message"), kind⟩

/-- Reads an activation. -/
def Activation.ofJson? (value : Json) : Option Activation := do
  let record ← record? ["participant", "deactivate"] value
  let participant ← (record.lookup "participant").bind text?
  return ⟨participant, flag (record.lookup "deactivate")⟩

/-- The fields of a sequence diagram. -/
def SequenceModel.fields : List String := ["participants", "messages", "activations"]

/-- The sequence diagram that a record holds. -/
def SequenceModel.ofRecord (record : List (String × Json)) : SequenceModel :=
  ⟨texts (record.lookup "participants"), items Message.ofJson? (record.lookup "messages"),
    items Activation.ofJson? (record.lookup "activations")⟩

/-! ## Any kind -/

namespace DiagramKind

/-- The fields of a model of a kind. -/
def fields : DiagramKind → List String
  | classes => ClassModel.fields
  | useCases => UseCaseModel.fields
  | sequence => SequenceModel.fields

/-- What a model of a kind is called where another value was found. -/
def title : DiagramKind → String
  | classes => "struct ClassModel"
  | useCases => "struct UseCaseModel"
  | sequence => "struct SequenceModel"

end DiagramKind

/-- The model of a kind that a record holds. -/
def Model.ofRecord (record : List (String × Json)) : DiagramKind → Model
  | .classes => .classes (.ofRecord record)
  | .useCases => .useCases (.ofRecord record)
  | .sequence => .sequence (.ofRecord record)

/-- Reads a model of the given kind. -/
def Model.ofJson (kind : DiagramKind) (value : Json) : Except Json.Mismatch Model :=
  match record? kind.fields value with
  | some record => .ok (.ofRecord record kind)
  | none => .error (recordFault kind.title value)

/-! ## Shape

Reading forgives so much that nearly any object would pass for any diagram. The shape asks
that the lists which make up a diagram of the kind are there, and are lists. -/

/-- The keys that must hold lists. -/
def DiagramKind.requiredKeys : DiagramKind → List String
  | classes => ["classes", "relationships"]
  | useCases => ["actors", "use_cases"]
  | sequence => ["participants", "messages"]

/-- Whether a value is an object with a list under every required key. -/
def DiagramKind.fits (kind : DiagramKind) (value : Json) : Bool :=
  kind.requiredKeys.all fun key => (value.get? key).any Json.isArray

end Draftsman
