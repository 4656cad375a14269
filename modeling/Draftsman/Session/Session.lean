/-
Sessions: generating one diagram in several turns.

A session remembers its turns under an id, and each turn edits the last model of its
kind. A history that cannot be read is never written either, so that a failing store
does not lose what it holds.
-/
import Draftsman.Generation.Generate
import Draftsman.Session.Store

set_option autoImplicit false

namespace Draftsman.Session

open Draftsman.Service Draftsman.Generation

/-! ## Procedures

A procedure works on stored histories and asks the service. It is a tree: each of its inner
nodes is one call, with a branch for every answer. It says which calls are made in which order
and leaves open how each is carried out, so the same procedure runs over a real store, over one
that fails, and in steps between those of other procedures. -/

/-- A procedure with a result. -/
inductive Procedure (α : Type) where
  | done (result : α)
  | load (id : String) (next : Except StoreError (Option History) → Procedure α)
  | save (id : String) (history : History) (next : Except StoreError Unit → Procedure α)
  | remove (id : String) (next : Except StoreError Bool → Procedure α)
  | ask (request : Request) (next : Reaction → Procedure α)

/-- The means of carrying out the calls of procedures. -/
structure Means (m : Type → Type) where
  load : String → m (Except StoreError (Option History))
  save : String → History → m (Except StoreError Unit)
  remove : String → m (Except StoreError Bool)
  ask : Request → m Reaction

namespace Procedure

/-- Runs a procedure by the given means. -/
def run {m : Type → Type} [Monad m] {α : Type} (means : Means m) : Procedure α → m α
  | done result => pure result
  | load id next => means.load id >>= fun answer => run means (next answer)
  | save id history next => means.save id history >>= fun answer => run means (next answer)
  | remove id next => means.remove id >>= fun answer => run means (next answer)
  | ask request next => means.ask request >>= fun answer => run means (next answer)

/-- An attempt at a generation as part of a procedure. -/
def ofGeneration {α : Type} (next : Outcome → Procedure α) : Attempt → Procedure α
  | .settled outcome => next outcome
  | .waiting request conclude => ask request fun reaction => next (conclude reaction)

end Procedure

/-! ## Submitting, looking back and forgetting -/

/-- What the turns of all sessions have in common. -/
structure Context where
  hasService : Bool
  tuning : Tuning

/-- The turn that an outcome makes. -/
def Turn.ofOutcome (text : String) (kind : DiagramKind) (o : Outcome) : Turn :=
  ⟨text, kind, o.model, o.diagram⟩

namespace Context

/-- The attempt at a generation for a text, given the history as far as it can be read. -/
def generation (c : Context) (text : String) (kind : DiagramKind) (history : Option History) :
    Attempt :=
  generate c.hasService c.tuning ⟨text, kind, history.bind fun h => h.last? kind⟩

/-- Generates for a text, and stores the turn if the history could be read. Whether the
turn could be stored does not change the outcome. -/
def submit (c : Context) (id text : String) (kind : DiagramKind) : Procedure Outcome :=
  .load id fun
    | .error _ => .ofGeneration .done (c.generation text kind none)
    | .ok found =>
      let history := found.getD .empty
      .ofGeneration
        (fun outcome =>
          .save id (history.push (.ofOutcome text kind outcome)) fun _ => .done outcome)
        (c.generation text kind (some history))

end Context

/-- The history of a session; an unknown or unreadable one is empty. -/
def history (id : String) : Procedure History :=
  .load id fun
    | .error _ => .done .empty
    | .ok found => .done (found.getD .empty)

/-- Forgets a session, and tells whether something was forgotten. -/
def reset (id : String) : Procedure Bool :=
  .remove id fun
    | .error _ => .done false
    | .ok removed => .done removed

end Draftsman.Session
