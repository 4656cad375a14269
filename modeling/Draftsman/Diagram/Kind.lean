/-
The kinds of diagram, and the kinds of line drawn in them.

Each kind has a name in the exchange format and a reader that forgives case and spacing.
Reading a name gives the kind back; the converse holds only up to the spellings that the
reader forgives.
-/
import Draftsman.Text.Blank
import Draftsman.Text.Case

set_option autoImplicit false

namespace Draftsman

open Draftsman.Text

/-! ## Diagrams -/

/-- The three kinds of diagram. -/
inductive DiagramKind where
  | classes
  | useCases
  | sequence
deriving DecidableEq, Repr

namespace DiagramKind

/-- The name of a kind of diagram. -/
def name : DiagramKind → String
  | classes => "class"
  | useCases => "usecase"
  | sequence => "sequence"

/-- Reads the name of a kind, with blanks around it and letters of either case. The two
words of a use case may also be separated. -/
def parse? (raw : String) : Option DiagramKind :=
  match lowerPlainText (trim raw) with
  | "class" => some classes
  | "usecase" | "use-case" | "use_case" | "use case" => some useCases
  | "sequence" => some sequence
  | _ => none

end DiagramKind

/-! ## Relationships between classes -/

/-- The kinds of relationship. A name that is not among the known ones is kept as it is
and drawn as a plain arrow. -/
inductive RelationshipKind where
  | association
  | inheritance
  | composition
  | aggregation
  | oneToOne
  | oneToMany
  | manyToOne
  | manyToMany
  | other (name : String)
deriving DecidableEq, Repr

namespace RelationshipKind

/-- The name of a kind of relationship. -/
def name : RelationshipKind → String
  | association => "association"
  | inheritance => "inheritance"
  | composition => "composition"
  | aggregation => "aggregation"
  | oneToOne => "one-to-one"
  | oneToMany => "one-to-many"
  | manyToOne => "many-to-one"
  | manyToMany => "many-to-many"
  | other raw => raw

/-- A separator of the words of a name, as the one that names are listed with. -/
def plainSeparator (c : Char) : Char := if c == '_' || c == ' ' then '-' else lowerPlain c

/-- Reads the name of a kind of relationship; the empty name is an association. -/
def parse (raw : String) : RelationshipKind :=
  let text := trim raw
  match String.ofList (text.toList.map plainSeparator) with
  | "" | "association" => association
  | "inheritance" | "generalization" => inheritance
  | "composition" => composition
  | "aggregation" => aggregation
  | "one-to-one" => oneToOne
  | "one-to-many" => oneToMany
  | "many-to-one" => manyToOne
  | "many-to-many" => manyToMany
  | _ => other text

/-- How many objects stand at the near and at the far end, for the four kinds that say
so. -/
def cardinalities? : RelationshipKind → Option (String × String)
  | oneToOne => some ("1", "1")
  | oneToMany => some ("1", "*")
  | manyToOne => some ("*", "1")
  | manyToMany => some ("*", "*")
  | _ => none

end RelationshipKind

/-! ## Messages between participants -/

/-- The kinds of message. -/
inductive MessageKind where
  | sync
  | async
  | reply
  | create
  | destroy
deriving DecidableEq, Repr

namespace MessageKind

/-- The name of a kind of message. -/
def name : MessageKind → String
  | sync => "sync"
  | async => "async"
  | reply => "return"
  | create => "create"
  | destroy => "destroy"

/-- Reads the name of a kind of message; any unknown name is a synchronous call. -/
def parse (raw : String) : MessageKind :=
  match lowerPlainText (trim raw) with
  | "async" | "asynchronous" => async
  | "return" | "reply" | "response" => reply
  | "create" => create
  | "destroy" | "delete" => destroy
  | _ => sync

end MessageKind

end Draftsman
