/-
The source of class diagrams.

A diagram becomes a list of statements, and a statement becomes a line. The statements
hold everything that a line depends on, so two diagrams look the same only if their
statements do.
-/
import Draftsman.Diagram.Model
import Draftsman.Markup.Name

set_option autoImplicit false

namespace Draftsman.Markup

open Draftsman.Text

/-! ## Statements -/

/-- How two classes are joined. -/
inductive Arrow where
  | inheritance
  | composition
  | aggregation
  | counted (near far : String)
  | plain
deriving DecidableEq, Repr

/-- One line of a class diagram. -/
inductive ClassStatement where
  | opening (name : List Char)
  | member (text : List Char)
  | separator
  | closing
  | relation (source target : List Char) (arrow : Arrow) (label : List Char)
deriving DecidableEq, Repr

/-- The line of a relation. The arrow of an inheritance points from the general class to
the special one, and takes no label. -/
def relationLine (source target : List Char) (arrow : Arrow) (label : List Char) : List Char :=
  match arrow with
  | .inheritance => target ++ " <|-- ".toList ++ source
  | .composition => source ++ " *-- ".toList ++ target ++ label
  | .aggregation => source ++ " o-- ".toList ++ target ++ label
  | .counted near far =>
    source ++ " \"".toList ++ near.toList ++ "\" --> \"".toList ++ far.toList ++ "\" ".toList
      ++ target ++ label
  | .plain => source ++ " --> ".toList ++ target ++ label

/-- The line of a statement. -/
def ClassStatement.line : ClassStatement → List Char
  | opening name => "class ".toList ++ name ++ [' ', '{']
  | member text => "  ".toList ++ text
  | separator => "  --".toList
  | closing => ['}']
  | relation source target arrow label => relationLine source target arrow label

/-! ## From the model -/

/-- Whether a character tells who may see a member. -/
def isVisibility (c : Char) : Bool := ['+', '-', '#', '~'].contains c

/-- A member with its visibility: public, unless it says otherwise. -/
def memberText (raw : String) : List Char :=
  if (tidy raw).head?.any isVisibility then tidy raw else '+' :: tidy raw

/-- A method with the parentheses that tell it from an attribute. -/
def methodText (raw : String) : List Char :=
  let text := memberText raw
  if text.getLast? = some ')' then text else text ++ ['(', ')']

/-- The statements of a class. Its methods stand below a line of their own. -/
def classStatements (c : ClassEntry) : List ClassStatement :=
  let methods := c.methods.map fun m => .member (methodText m)
  .opening (written c.name) :: (c.attributes.map (fun a => .member (memberText a))
    ++ (if methods.isEmpty then [] else .separator :: methods) ++ [.closing])

/-- The arrow of a kind of relationship. -/
def arrow (kind : RelationshipKind) : Arrow :=
  match kind with
  | .inheritance => .inheritance
  | .composition => .composition
  | .aggregation => .aggregation
  | kind =>
    match kind.cardinalities? with
    | some (near, far) => .counted near far
    | none => .plain

/-- The statement of a relationship. -/
def relationshipStatement (r : Relationship) : ClassStatement :=
  .relation (written r.source) (written r.target) (arrow r.kind) (labelClause r.label)

/-- The statements of a class diagram: the classes, then the relationships. -/
def classDiagram (m : ClassModel) : List ClassStatement :=
  m.classes.flatMap classStatements ++ m.relationships.map relationshipStatement

end Draftsman.Markup
