/-
The interface of the first provider: requests, and answers of a fixed form.
-/
import Draftsman.Json.Typed
import Draftsman.Service.Completion
import Draftsman.Service.Http

set_option autoImplicit false

namespace Draftsman.Service.Anthropic

open Draftsman.Json

/-! ## Requests -/

/-- Where requests go. -/
def url : String := "https://api.anthropic.com/v1/messages"

/-- The body of a request. -/
def body (model : String) (r : Request) : Json := .object
  [("model", .string model),
    ("max_tokens", countJson r.maxTokens),
    ("system", .string r.system),
    ("messages", .array [.object [("role", .string "user"), ("content", .string r.prompt)]]),
    ("temperature", temperatureJson r.temperature)]

/-- A request with the given key. -/
def post (key model : String) (r : Request) : Post :=
  .json url [("x-api-key", key), ("anthropic-version", "2023-06-01")] (body model r)

/-! ## Blocks of an answer -/

/-- The name of the member that tells the type of a block. -/
def typeKey : String := "type"

/-- The type of a block of text. -/
def textType : String := "text"

/-- What has been read of a block that is given as an object. -/
structure Parts where
  type : Option String
  /-- The other members, as they stand. -/
  members : List (String × Json)

/-- Reads one member of a block. -/
def readPart (room : Nat) (parts : Parts) (key : List Char) (cs : List Char) :
    Step ReadError Parts cs :=
  if String.ofList key = typeKey then
    if parts.type.isSome then .error (.form (.duplicateField typeKey))
    else
      match scanColon cs with
      | .error e => .error (.grammar e)
      | .ok rest =>
        match readText "variant identifier" room rest.1 with
        | .error e => .error e
        | .ok (type, rest') => .ok ({ parts with type := some type }, rest.andThen rest'.relax)
  else
    match scanColon cs with
    | .error e => .error (.grammar e)
    | .ok rest =>
      match atStart id (valueAfter room) rest.1 with
      | .error e => .error (.grammar e)
      | .ok (value, rest') =>
        .ok ({ parts with members := parts.members ++ [(String.ofList key, value)] },
          rest.andThen rest'.relax)

/-- The text of a value that must be one. -/
def textOf : Json → Except ReadError String
  | .string s => .ok s
  | value => .error (.form (.invalidType (found value) "a string"))

/-- The text among the members of a block of text. -/
def textMember (text : Option String) : List (String × Json) → Except ReadError String
  | [] => match text with
    | some text => .ok text
    | none => .error (.form (.missingField textType))
  | (key, value) :: rest =>
    if key = textType then
      if text.isSome then .error (.form (.duplicateField textType))
      else match textOf value with
        | .error e => .error e
        | .ok content => textMember (some content) rest
    else textMember text rest

/-- The block that an object is. -/
def blockOfParts (parts : Parts) : Except ReadError Block :=
  match parts.type with
  | none => .error (.form (.missingField typeKey))
  | some type =>
    if type = textType then (textMember none parts.members).map .text else .ok .other

/-- How many elements are expected, in words. -/
def elementsExpected (n : Nat) : String :=
  toString n ++ (if n = 1 then " element" else " elements") ++ " in sequence"

/-- The block that an array is: its type, and then its parts by position. -/
def blockOfItems (type : String) (items : List Json) : Except ReadError Block :=
  if type = textType then
    match items with
    | [] => .error (.form (.invalidLength 0
        (lengthTitle "struct variant ContentBlock::Text" 1)))
    | value :: rest =>
      match textOf value with
      | .error e => .error e
      | .ok text =>
        if rest.isEmpty then .ok (.text text)
        else .error (.form (.invalidLength items.length (elementsExpected 1)))
  else if items.isEmpty then .ok .other
  else .error (.form (.invalidLength items.length (elementsExpected 0)))

/-- Reads a block that is an array, after its bracket. -/
def readBlockItems (room : Nat) (cs : List Char) : Step ReadError Block cs :=
  match nextItem true cs with
  | .error e => .error (.grammar e)
  | .ok (.closed _) => .error (.form (.missingField typeKey))
  | .ok (.part start) =>
    match readText "variant identifier" room start.1 with
    | .error e => .error e
    | .ok (type, afterType) =>
      match readItems .grammar (atStart .grammar fun c tail =>
          (valueAfter room c tail).mapError .grammar) false afterType.1 with
      | .error e => .error e
      | .ok (items, rest) =>
        match blockOfItems type items with
        | .error e => .error e
        | .ok block => .ok (block, start.andThen (afterType.andThen rest.relax))

/-- Reads a block. -/
def readBlock : Reader Block := fun room =>
  atStart .grammar fun c tail =>
    if c = '{' then
      match room with
      | 0 => .error (.grammar .tooDeep)
      | room + 1 =>
        match readMembers .grammar (readPart room) true ⟨none, []⟩ tail with
        | .error e => .error e
        | .ok (parts, rest) =>
          match blockOfParts parts with
          | .error e => .error e
          | .ok block => .ok (block, rest.relax)
    else if c = '[' then
      match room with
      | 0 => .error (.grammar .tooDeep)
      | room + 1 => (readBlockItems room tail).relax
    else .error (unexpected "internally tagged enum ContentBlock" c tail)

/-! ## Answers -/

/-- The token counts of an answer, as far as they have been read. -/
structure Usage where
  input : Option Nat
  output : Option Nat

/-- Reads a value that changes a record. -/
def reading {α σ : Type} (reader : Reader α) (enter : α → σ → σ) : Reader (σ → σ) :=
  fun room cs =>
    match reader room cs with
    | .error e => .error e
    | .ok (value, rest) => .ok (enter value, rest)

/-- The fields of the token counts. -/
def usageFields : List (Json.Field Usage) :=
  [⟨"input_tokens", reading (readNatural "u64") fun n u => { u with input := some n },
      fun u => u.input.isSome, true⟩,
    ⟨"output_tokens", reading (readNatural "u64") fun n u => { u with output := some n },
      fun u => u.output.isSome, true⟩]

/-- An answer, as far as it has been read. -/
structure Answer where
  content : Option (List Block)
  model : Option String
  stopReason : Option (Option String)
  usage : Option Usage

/-- The fields of an answer. -/
def answerFields : List (Json.Field Answer) :=
  [⟨"content", reading (readSequence "a sequence" readBlock) fun x a => { a with content := some x },
      fun a => a.content.isSome, true⟩,
    ⟨"model", reading (readText "a string") fun x a => { a with model := some x },
      fun a => a.model.isSome, true⟩,
    ⟨"stop_reason", reading (readOptionalText "a string") fun x a => { a with stopReason := some x },
      fun a => a.stopReason.isSome, false⟩,
    ⟨"usage", reading (readRecord "struct Usage" usageFields ⟨none, none⟩)
        fun x a => { a with usage := some x },
      fun a => a.usage.isSome, true⟩]

/-- The response that a complete answer is. Blocks that are not text are left out. -/
def Answer.response (a : Answer) : Response :=
  { content := (a.content.getD []).filter fun b => b.text?.isSome
    model := a.model.getD ""
    stopReason := (a.stopReason.bind id).getD "end_turn"
    inputTokens := (a.usage.bind Usage.input).getD 0
    outputTokens := (a.usage.bind Usage.output).getD 0 }

/-- Reads the body of an answer. -/
def readResponse (text : String) : Except ServiceError Response :=
  match readWhole (readRecord "struct ApiResponse" answerFields ⟨none, none, none, none⟩) text with
  | .error e => .error (.badResponse e.message)
  | .ok answer => .ok answer.response

end Draftsman.Service.Anthropic
