/-
Asking a service for a completion: what it is asked, what it answers, and what can go wrong
before the text of the answer is there.
-/
import Draftsman.Decimal.Binary
import Draftsman.Text.Blank

set_option autoImplicit false

namespace Draftsman.Service

open Draftsman.Decimal Draftsman.Text

/-! ## Requests -/

/-- A request for one completion: what the service is told in general, what it is asked,
how freely it may choose its words, and how many it may use. -/
structure Request where
  system : String
  prompt : String
  temperature : Binary
  maxTokens : Nat
deriving DecidableEq, Repr

/-- One fifth, as near as 32 bits allow. -/
def defaultTemperature : Binary := .finite ⟨false, ⟨13421773, -26⟩⟩

/-- How many tokens a completion may have unless configured otherwise. -/
def defaultMaxTokens : Nat := 2048

/-! ## Faults -/

/-- Why there is no completion. -/
inductive ServiceError where
  /-- A setting has a value that cannot be read. -/
  | badSetting (reason : String)
  /-- The variable that should hold the key, or name the one that does, is not set. -/
  | missingKey (name : String)
  /-- The request could not be delivered, or the answer broke off. -/
  | requestFailed (reason : String)
  /-- The provider answered with a status that is no success. -/
  | badStatus (status : Nat) (body : String)
  /-- The answer of the provider does not have its documented form. -/
  | badResponse (reason : String)
  /-- The means for sending requests could not be set up. -/
  | setupFailed (reason : String)
  /-- Nothing arrived before the deadline. -/
  | timedOut (seconds : Nat)
  /-- The answer holds no text. -/
  | emptyCompletion
deriving DecidableEq, Repr

namespace ServiceError

/-- The code of a fault, for log lines and callers. -/
def code : ServiceError → String
  | badSetting _ => "E_CONFIG_PARSE"
  | missingKey _ => "E_MISSING_API_KEY"
  | requestFailed _ => "E_API_REQUEST"
  | badStatus .. => "E_API_RESPONSE"
  | badResponse _ => "E_API_PARSE"
  | setupFailed _ => "E_HTTP_CLIENT_BUILD"
  | timedOut _ => "E_COMPLETION_TIMEOUT"
  | emptyCompletion => "E_EMPTY_COMPLETION"

/-- The wording of a fault. -/
def message : ServiceError → String
  | badSetting reason => "config parse failed: " ++ reason
  | missingKey name => "missing API key: env var " ++ name ++ " not set"
  | requestFailed reason => "API request failed: " ++ reason
  | badStatus status _ => "API response error: status " ++ toString status
  | badResponse reason => "API response parse failed: " ++ reason
  | setupFailed reason => "HTTP client build failed: " ++ reason
  | timedOut seconds => "completion timed out after " ++ toString seconds ++ "s"
  | emptyCompletion => "completion contained no text"

/-- Whether a status says that the same request may succeed later. -/
def isTransient (status : Nat) : Bool := status == 429 || (500 ≤ status && status ≤ 599)

/-- Whether the same request may succeed later. -/
def retryable : ServiceError → Bool
  | requestFailed _ | timedOut _ => true
  | badStatus status _ => isTransient status
  | _ => false

end ServiceError

/-! ## Answers -/

/-- A part of an answer: text, or something else that is of no use here. -/
inductive Block where
  | text (content : String)
  | other
deriving DecidableEq, Repr

/-- An answer, in the form that is common to all providers. -/
structure Response where
  content : List Block
  model : String
  stopReason : String
  inputTokens : Nat
  outputTokens : Nat
deriving DecidableEq, Repr

/-- The text of a block, if it is one of text. -/
def Block.text? : Block → Option String
  | text content => some content
  | other => none

/-- The text of an answer: its blocks of text, each from a new line on. -/
def Response.text (r : Response) : String :=
  String.intercalate "\n" (r.content.filterMap Block.text?)

/-! ## Completion -/

/-- How a service reacts to a request: it takes its time, in milliseconds, and then
answers or fails. -/
structure Reaction where
  delay : Nat
  result : Except ServiceError Response

/-- The text of an answer, which must not be blank. -/
def Response.completion (r : Response) : Except ServiceError String :=
  if allBlank r.text.toList then .error .emptyCompletion else .ok r.text

/-- What comes of a request under a deadline in milliseconds: the text of the answer, if
it arrives in time. The fault of a missed deadline names whole seconds. -/
def Reaction.completion (deadline : Nat) (r : Reaction) : Except ServiceError String :=
  if deadline < r.delay then .error (.timedOut (deadline / 1000))
  else r.result.bind Response.completion

end Draftsman.Service
