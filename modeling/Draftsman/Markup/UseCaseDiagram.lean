/-
The source of use-case diagrams.

Actors stand outside the boundary of the system and use cases inside. Edges are drawn
between identifiers, which all elements take from one supply.
-/
import Draftsman.Diagram.Model
import Draftsman.Markup.Name

set_option autoImplicit false

namespace Draftsman.Markup

/-! ## Statements -/

/-- One line of a use-case diagram. -/
inductive UseCaseStatement where
  | direction
  | actor (display id : List Char)
  | opening
  | useCase (display id : List Char)
  | closing
  | association (actor useCase : List Char)
  | inclusion (source target : List Char)
  | extension (source target : List Char)
deriving DecidableEq, Repr

/-- The identifier of the boundary. No element may take it. -/
def boundary : List Char := "System".toList

/-- The line of a statement. -/
def UseCaseStatement.line : UseCaseStatement → List Char
  | direction => "left to right direction".toList
  | actor display id => "actor ".toList ++ display ++ " as ".toList ++ id
  | opening => "rectangle ".toList ++ boundary ++ [' ', '{']
  | useCase display id => "  usecase ".toList ++ display ++ " as ".toList ++ id
  | closing => ['}']
  | association source target => source ++ " --> ".toList ++ target
  | inclusion source target => source ++ " ..> ".toList ++ target ++ " : <<include>>".toList
  | extension source target => source ++ " ..> ".toList ++ target ++ " : <<extend>>".toList

/-! ## From the model -/

/-- The base of the identifier of a use case. -/
def useCaseBase (name : String) : List Char := "UC_".toList ++ sanitize name

/-- The elements of a diagram with their identifiers. -/
structure Elements where
  actors : Declared
  useCases : Declared

/-- Declares all elements of a diagram: the actors, then the use cases. -/
def declareElements (m : UseCaseModel) : Elements :=
  let (actors, taken) := declare aliasOf [] [boundary] m.actors
  let (useCases, _) := declare useCaseBase [] taken m.useCases
  ⟨actors, useCases⟩

/-- The identifier of an actor. -/
def Elements.actor (e : Elements) (name : String) : List Char := e.actors.identifier aliasOf name

/-- The identifier of a use case. -/
def Elements.useCase (e : Elements) (name : String) : List Char :=
  e.useCases.identifier useCaseBase name

/-- The boundary with the use cases in it; without use cases there is none. -/
def boundaryStatements (useCases : Declared) : List UseCaseStatement :=
  if useCases.isEmpty then []
  else .opening :: (useCases.map (fun u => .useCase (enquote (tidy u.1)) u.2) ++ [.closing])

/-- The statements of a use-case diagram: the elements, then the edges. -/
def useCaseDiagram (m : UseCaseModel) : List UseCaseStatement :=
  let e := declareElements m
  .direction :: (e.actors.map (fun a => .actor (enquote (tidy a.1)) a.2)
    ++ boundaryStatements e.useCases
    ++ m.associations.map (fun a => .association (e.actor a.actor) (e.useCase a.useCase))
    ++ m.includes.map (fun l => .inclusion (e.useCase l.source) (e.useCase l.target))
    ++ m.extensions.map (fun l => .extension (e.useCase l.source) (e.useCase l.target)))

end Draftsman.Markup
