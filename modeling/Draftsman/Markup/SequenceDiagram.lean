/-
The source of sequence diagrams.

A participant is declared once and referred to by its name, or by its alias if the name
is no identifier.
-/
import Draftsman.Diagram.Model
import Draftsman.Markup.Name
import Draftsman.Markup.Role

set_option autoImplicit false

namespace Draftsman.Markup

/-! ## Statements -/

/-- One line of a sequence diagram. A declaration shows a name and, if the name is no
identifier, gives the identifier that stands for it. -/
inductive SequenceStatement where
  | declaration (role : Role) (display : List Char) (id : Option (List Char))
  | message (source target : List Char) (kind : MessageKind) (label : List Char)
  | activation (participant : List Char) (ends : Bool)
deriving DecidableEq, Repr

/-- The arrow of a message. -/
def messageArrow : MessageKind → String
  | .async => " ->> "
  | .reply => " --> "
  | .sync | .create | .destroy => " -> "

/-- The mark of a message that begins or ends the life of its receiver. -/
def lifeMark : MessageKind → String
  | .create => " **"
  | .destroy => " !!"
  | .sync | .async | .reply => ""

/-- The line of a statement. -/
def SequenceStatement.line : SequenceStatement → List Char
  | declaration role display none => role.keyword.toList ++ ' ' :: display
  | declaration role display (some id) =>
    role.keyword.toList ++ ' ' :: (display ++ " as ".toList ++ id)
  | message source target kind label =>
    source ++ (messageArrow kind).toList ++ target ++ (lifeMark kind).toList ++ label
  | activation participant ends =>
    (if ends then "deactivate " else "activate ").toList ++ participant

/-! ## From the model -/

/-- The identifier under which a participant is known. -/
def reference (name : String) : List Char :=
  if isIdentifier (tidy name) then tidy name else aliasOf name

/-- The declaration of a participant. -/
def participantStatement (name : String) : SequenceStatement :=
  if isIdentifier (tidy name) then .declaration (role name) (tidy name) none
  else .declaration (role name) (enquote (tidy name)) (some (aliasOf name))

/-- The statement of a message. -/
def messageStatement (m : Message) : SequenceStatement :=
  .message (reference m.source) (reference m.target) m.kind (labelClause m.text)

/-- The statement of an activation. -/
def activationStatement (a : Activation) : SequenceStatement :=
  .activation (reference a.participant) a.deactivate

/-- The statements of a sequence diagram: participants, messages, activations. -/
def sequenceDiagram (m : SequenceModel) : List SequenceStatement :=
  m.participants.map participantStatement ++ m.messages.map messageStatement
    ++ m.activations.map activationStatement

end Draftsman.Markup
