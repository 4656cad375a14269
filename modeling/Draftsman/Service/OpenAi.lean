/-
The two interfaces of the second provider. Their answers are looked into rather than
read: whatever is missing or of another type counts as absent.
-/
import Draftsman.Json.Parser
import Draftsman.Service.Completion
import Draftsman.Service.Http
import Draftsman.Service.Settings

set_option autoImplicit false

namespace Draftsman.Service.OpenAi

open Draftsman.Text

/-! ## Requests -/

/-- The messages of a chat. An empty system text is left out. -/
def messages (r : Request) : List Json :=
  let message (role content : String) : Json :=
    .object [("role", .string role), ("content", .string content)]
  (if allBlank r.system.toList then [] else [message "system" r.system])
    ++ [message "user" r.prompt]

/-- The body of a request for a chat completion. -/
def chatBody (model : String) (r : Request) : Json := .object
  [("model", .string model),
    ("max_tokens", countJson r.maxTokens),
    ("temperature", temperatureJson r.temperature),
    ("messages", .array (messages r))]

/-- The body of a request for a response. -/
def responsesBody (model : String) (r : Request) : Json := .object
  [("model", .string model),
    ("max_output_tokens", countJson r.maxTokens),
    ("temperature", temperatureJson r.temperature),
    ("instructions", .string r.system),
    ("input", .array [.object
      [("type", .string "message"), ("role", .string "user"),
        ("content", .array [.object
          [("type", .string "input_text"), ("text", .string r.prompt)]])]])]

/-- The path of an interface. -/
def path : Interface → String
  | .chatCompletions => "/chat/completions"
  | .responses => "/responses"

/-- The body of a request. -/
def body (model : String) (r : Request) : Interface → Json
  | .chatCompletions => chatBody model r
  | .responses => responsesBody model r

/-- A request with the given key. -/
def post (baseUrl key model : String) (interface : Interface) (r : Request) : Post :=
  .json (baseUrl ++ path interface) [("authorization", "Bearer " ++ key)] (body model r interface)

/-! ## Looking into answers -/

/-- The string under a key. -/
def stringAt? (key : String) (value : Json) : Option String := (value.get? key).bind Json.asString?

/-- A token count of an answer. -/
def count (key : String) (answer : Json) : Nat :=
  (((answer.get? "usage").bind (Json.get? key)).bind Json.asNat?).getD 0

/-- Why a text ended, in the words common to all providers. -/
def stopReason (truncated : Bool) : String := if truncated then "max_tokens" else "end_turn"

/-- A text as content; no text is no content. -/
def textBlocks (text : String) : List Block := if text = "" then [] else [.text text]

/-- The answer of a body, which must be JSON. -/
def parseAnswer (body : String) : Except ServiceError Json :=
  (Json.parse body).mapError fun e => .badResponse e.message

/-! ## Chat completions -/

/-- The response that a chosen completion is. -/
def chatResponse (answer choice : Json) : Response :=
  { content := textBlocks (((choice.get? "message").bind (stringAt? "content")).getD "")
    model := (stringAt? "model" answer).getD ""
    stopReason := stopReason (stringAt? "finish_reason" choice == some "length")
    inputTokens := count "prompt_tokens" answer
    outputTokens := count "completion_tokens" answer }

/-- Reads the body of a chat completion: the first of its choices. -/
def readChat (body : String) : Except ServiceError Response := do
  let answer ← parseAnswer body
  match (answer.get? "choices").bind Json.asArray? with
  | some (choice :: _) => return chatResponse answer choice
  | _ => throw (.badResponse "chat_completions: missing choices[0]")

/-! ## Responses -/

/-- The text of a part of a message, which may stand under either of two keys. -/
def partText (part : Json) : List Block :=
  let isText := [some "output_text", some "text"].contains (stringAt? "type" part)
  let text := (((part.get? "text").or (part.get? "output_text")).bind Json.asString?).getD ""
  if isText then textBlocks text else []

/-- The text of an item of the output, if it is a message. -/
def itemText (item : Json) : List Block :=
  if stringAt? "type" item = some "message" then
    (((item.get? "content").bind Json.asArray?).getD []).flatMap partText
  else []

/-- The text of an answer: that of its output, or without output its text alone. -/
def outputText (answer : Json) : List Block :=
  match (answer.get? "output").bind Json.asArray? with
  | some items => items.flatMap itemText
  | none => textBlocks ((stringAt? "output_text" answer).getD "")

/-- Whether an answer ends because it may not be longer. -/
def isTruncated (answer : Json) : Bool :=
  (answer.get? "incomplete_details").bind (stringAt? "reason") == some "max_output_tokens"

/-- Reads the body of a response. -/
def readResponses (body : String) : Except ServiceError Response := do
  let answer ← parseAnswer body
  return { content := outputText answer
           model := (stringAt? "model" answer).getD ""
           stopReason := stopReason (isTruncated answer)
           inputTokens := count "input_tokens" answer
           outputTokens := count "output_tokens" answer }

/-- Reads the body of an answer. -/
def readResponse : Interface → String → Except ServiceError Response
  | .chatCompletions => readChat
  | .responses => readResponses

end Draftsman.Service.OpenAi
