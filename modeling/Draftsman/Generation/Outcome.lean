/-
What comes of a generation: always a model, and the reason if it is not the one that the
completion service proposed.
-/
import Draftsman.Explanation.Explain
import Draftsman.Markup.Diagram
import Draftsman.Reply.Interpretation
import Draftsman.Service.Completion

set_option autoImplicit false

namespace Draftsman.Generation

open Draftsman.Service Draftsman.Reply

/-! ## Where a model comes from -/

/-- Where the model of an outcome comes from: from the service, from the caller, who gave
it as the current model, or from the rules of the draft. -/
inductive Source where
  | candidate
  | seed
  | draft
deriving DecidableEq, Repr

/-- The name of a source. -/
def Source.name : Source → String
  | candidate => "candidate"
  | seed => "seed"
  | draft => "draft"

/-! ## Why it does not come from the service -/

/-- Why the model of the service was not used. -/
inductive Fallback where
  | unavailable
  | completion (fault : ServiceError)
  | interpretation (fault : InterpretError)
  | incompatible (kind : DiagramKind)
  | undecodable (reason : String)
deriving DecidableEq, Repr

namespace Fallback

/-- The code of a reason, for log lines and callers. -/
def code : Fallback → String
  | unavailable => "E_LLM_UNAVAILABLE"
  | completion fault => fault.code
  | interpretation fault => fault.code
  | incompatible _ => "E_INCOMPATIBLE_MODEL"
  | undecodable _ => "E_MODEL_DECODE"

/-- The wording of a reason. -/
def message : Fallback → String
  | unavailable => "completion service not configured"
  | completion fault => "completion failed: " ++ fault.message
  | interpretation fault => "completion unusable: " ++ fault.message
  | incompatible kind => "payload does not have the " ++ kind.name ++ " diagram shape"
  | undecodable reason => "payload could not be decoded: " ++ reason

/-- Whether the same request may succeed later. -/
def retryable : Fallback → Bool
  | completion fault => fault.retryable
  | _ => false

end Fallback

/-! ## Outcomes -/

/-- The outcome of a generation. -/
structure Outcome where
  model : Model
  source : Source
  fallback : Option Fallback
deriving DecidableEq, Repr

namespace Outcome

/-- The kind of diagram that was generated. -/
def kind (o : Outcome) : DiagramKind := o.model.kind

/-- The source of the diagram. -/
def diagram (o : Outcome) : String := Markup.render o.model

/-- The explanation of the model. -/
def explanation (o : Outcome) : String := Explanation.explain o.model

end Outcome

end Draftsman.Generation
