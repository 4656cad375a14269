/-
Diagram source as one text.

A diagram that cannot be drawn as asked still yields valid source: a comment says why.
-/
import Draftsman.Markup.ClassDiagram
import Draftsman.Markup.SequenceDiagram
import Draftsman.Markup.UseCaseDiagram

set_option autoImplicit false

namespace Draftsman.Markup

/-- The lines of a model, without the frame. -/
def body : Model → List (List Char)
  | .classes m => (classDiagram m).map ClassStatement.line
  | .useCases m => (useCaseDiagram m).map UseCaseStatement.line
  | .sequence m => (sequenceDiagram m).map SequenceStatement.line

/-- Lines within the frame of a diagram. -/
def frame (lines : List (List Char)) : String :=
  String.ofList (['\n'].intercalate ("@startuml".toList :: (lines ++ ["@enduml".toList])))

/-- A line that is not drawn. -/
def comment (text : List Char) : List Char := '\'' :: ' ' :: text

/-- The source of a model. -/
def render (model : Model) : String := frame (body model)

/-- The lines of a model drawn as the kind of diagram with the given name. -/
def bodyAs (model : Model) (type : String) : List (List Char) :=
  match DiagramKind.parse? type with
  | none => [comment ("unsupported diagram type: ".toList ++ tidy type)]
  | some kind =>
    if kind = model.kind then body model
    else [comment (model.kind.name ++ " model cannot be rendered as a " ++ kind.name
      ++ " diagram").toList]

/-- The source of a model drawn as the kind of diagram with the given name. -/
def renderAs (model : Model) (type : String) : String := frame (bodyAs model type)

end Draftsman.Markup
