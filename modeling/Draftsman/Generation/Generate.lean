/-
Generating a diagram.

A draft is made by rules alone, and the service is asked to do better. Whatever goes
wrong on the way from its answer to a model, the outcome is a model all the same: the
current one if there is one, and otherwise the draft.
-/
import Draftsman.Diagram.Decode
import Draftsman.Extraction.Finding
import Draftsman.Generation.Outcome
import Draftsman.Generation.Prompt
import Draftsman.Service.Completion
import Draftsman.Service.Settings

set_option autoImplicit false

namespace Draftsman.Generation

open Draftsman.Service

/-! ## Tasks -/

/-- What is to be generated: a diagram of a kind from a text, perhaps by editing the
current model. -/
structure Task where
  text : String
  kind : DiagramKind
  current : Option Model
deriving DecidableEq, Repr

namespace Task

/-- The model to edit. A current model of another kind does not count. -/
def seed (t : Task) : Option Model := t.current.filter fun m => m.kind = t.kind

/-- The draft by rules. -/
def draft (t : Task) : Model := Extraction.draft t.text t.kind

/-- What the service is asked. -/
def request (t : Task) (tuning : Tuning) : Request :=
  { Generation.request t.text t.kind t.draft t.seed with
    temperature := tuning.temperature
    maxTokens := tuning.maxTokens }

end Task

/-! ## From an answer to an outcome -/

/-- The model that a completion holds. -/
def candidate (kind : DiagramKind) (completion : Except ServiceError String) :
    Except Fallback Model :=
  match completion with
  | .error fault => .error (.completion fault)
  | .ok text =>
    match Reply.interpret text with
    | .error fault => .error (.interpretation fault)
    | .ok payload =>
      if kind.fits payload then
        match Model.ofJson kind payload with
        | .error fault => .error (.undecodable fault.message)
        | .ok model => .ok model
      else .error (.incompatible kind)

/-- The outcome without the model of the service. -/
def Task.fallBack (t : Task) (reason : Fallback) : Outcome :=
  match t.seed with
  | some model => ⟨model, .seed, some reason⟩
  | none => ⟨t.draft, .draft, some reason⟩

/-- The outcome, given what the service came up with. -/
def Task.conclude (t : Task) : Except Fallback Model → Outcome
  | .ok model => ⟨model, .candidate, none⟩
  | .error reason => t.fallBack reason

/-! ## Attempts -/

/-- An attempt at a generation: its outcome is settled, or it waits for the reaction
of the service to one request. -/
inductive Attempt where
  | settled (outcome : Outcome)
  | waiting (request : Request) (conclude : Reaction → Outcome)

/-- Begins a generation. Without a service it is settled at once. -/
def generate (hasService : Bool) (tuning : Tuning) (task : Task) : Attempt :=
  if hasService then
    .waiting (task.request tuning) fun reaction =>
      task.conclude (candidate task.kind (reaction.completion tuning.deadline))
  else .settled (task.fallBack .unavailable)

/-- Completes an attempt by the given means of asking. -/
def Attempt.run {m : Type → Type} [Monad m] (ask : Request → m Reaction) :
    Attempt → m Outcome
  | settled outcome => pure outcome
  | waiting request conclude => return conclude (← ask request)

end Draftsman.Generation
