/-
Requests over HTTP and what comes of them.
-/
import Draftsman.Json.Printer
import Draftsman.Service.Completion

set_option autoImplicit false

namespace Draftsman.Service

open Draftsman.Decimal

/-- A request that posts a JSON text. -/
structure Post where
  url : String
  headers : List (String × String)
  body : String
deriving DecidableEq, Repr

/-- A request that posts a JSON value. The type of the content is the last header. -/
def Post.json (url : String) (headers : List (String × String)) (body : Json) : Post :=
  ⟨url, headers ++ [("content-type", "application/json")], body.compact⟩

/-- What comes of a request: an answer, or none in time, or none at all. -/
inductive Delivery where
  | answered (status : Nat) (body : String)
  | timedOut
  | failed (reason : String)
deriving DecidableEq, Repr

/-- Whether a status says that the request has succeeded. -/
def isSuccess (status : Nat) : Bool := 200 ≤ status && status ≤ 299

/-- The body of a successful answer. A deadline is named by its seconds. -/
def Delivery.body (seconds : Nat) : Delivery → Except ServiceError String
  | answered status body => if isSuccess status then .ok body else .error (.badStatus status body)
  | timedOut => .error (.timedOut seconds)
  | failed reason => .error (.requestFailed reason)

/-- A temperature within a request. JSON has no way to write one that is not finite. -/
def temperatureJson : Binary → Json
  | .finite x => .number (.single x)
  | _ => .null

/-- A count within a request. -/
def countJson (n : Nat) : Json := .number (.integer n)

end Draftsman.Service
