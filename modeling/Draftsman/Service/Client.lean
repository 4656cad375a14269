/-
One way to ask, whichever provider answers.
-/
import Draftsman.Service.Anthropic
import Draftsman.Service.OpenAi

set_option autoImplicit false

namespace Draftsman.Service

namespace Settings

/-- What is sent for a request. -/
def post (s : Settings) (r : Request) : Post :=
  match s.provider with
  | .anthropic => Anthropic.post s.key s.model r
  | .openAi => OpenAi.post s.baseUrl s.key s.model s.interface r

/-- Reads the body of a successful answer. -/
def readResponse (s : Settings) (body : String) : Except ServiceError Response :=
  match s.provider with
  | .anthropic => Anthropic.readResponse body
  | .openAi => OpenAi.readResponse s.interface body

/-- The response that comes of a request. -/
def receive (s : Settings) (d : Delivery) : Except ServiceError Response :=
  (d.body s.timeouts.request).bind s.readResponse

/-- Asks the provider, by the given means of sending. -/
def ask {m : Type → Type} [Monad m] (send : Post → m Delivery) (s : Settings) (r : Request) :
    m (Except ServiceError Response) := do
  return s.receive (← send (s.post r))

end Settings

end Draftsman.Service
