/-
The settings of the service, from the environment.

What is needed to reach a provider must be right; what only tunes a request has a
default that stands in for a value that cannot be read.
-/
import Draftsman.Decimal.Reader
import Draftsman.Service.Completion
import Draftsman.Text.Blank

set_option autoImplicit false

namespace Draftsman.Service

open Draftsman.Text Draftsman.Decimal

/-! ## The environment -/

/-- Variables and their values. Of two values of one variable the first counts. -/
abbrev Environment := List (String × String)

/-- A value read from a variable; the default if the variable is not set or its value,
without blanks around it, cannot be read. -/
def Environment.readOr {α : Type} (env : Environment) (name : String) (default : α)
    (read : String → Option α) : α :=
  ((env.lookup name).bind fun value => read (trim value)).getD default

/-! ## Reaching a provider -/

/-- The providers. -/
inductive Provider where
  | anthropic
  | openAi
deriving DecidableEq, Repr

/-- The two interfaces that one of the providers offers. -/
inductive Interface where
  | chatCompletions
  | responses
deriving DecidableEq, Repr

/-- How long to wait, in seconds. -/
structure Timeouts where
  request : Nat
  connect : Nat
deriving DecidableEq, Repr

/-- All that is needed to reach a provider. -/
structure Settings where
  provider : Provider
  key : String
  model : String
  interface : Interface
  baseUrl : String
  timeouts : Timeouts
deriving DecidableEq, Repr

/-- Reads the name of a provider. -/
def Provider.parse : String → Except ServiceError Provider
  | "anthropic" => .ok anthropic
  | "openai" => .ok openAi
  | other => .error (.badSetting ("unknown LLM_PROVIDER: " ++ other))

/-- Reads the name of an interface. -/
def Interface.parse : String → Except ServiceError Interface
  | "responses" => .ok responses
  | "chat_completions" => .ok chatCompletions
  | other => .error (.badSetting ("unsupported openai_api mode '" ++ other
      ++ "' (expected 'responses' or 'chat_completions')"))

/-- The model that is used unless another one is configured. -/
def Provider.defaultModel : Provider → String
  | anthropic => "claude-sonnet-4-5-20250929"
  | openAi => "gpt-4o-mini"

/-- The address of the interface unless another one is configured. -/
def defaultBaseUrl : String := "https://api.openai.com/v1"

/-- An address without slashes at its end. -/
def dropSlashes (url : String) : String :=
  String.ofList (dropEndWhile (· == '/') url.toList)

/-- How many values a word of 64 bits has. -/
def wordLimit : Nat := 0x10000000000000000

/-- How many values a word of 32 bits has. -/
def halfWordLimit : Nat := 0x100000000

/-- How long a request may take, in seconds. -/
def requestSeconds (env : Environment) : Nat :=
  env.readOr "LLM_REQUEST_TIMEOUT_SECS" 30 (naturalBelow? wordLimit)

/-- How long a connection may take, in seconds. -/
def connectSeconds (env : Environment) : Nat :=
  env.readOr "LLM_CONNECT_TIMEOUT_SECS" 10 (naturalBelow? wordLimit)

/-- The key. One variable names another, which holds the key. -/
def readKey (env : Environment) : Except ServiceError String :=
  match env.lookup "LLM_API_KEY_ENV" with
  | none => .error (.missingKey "LLM_API_KEY_ENV")
  | some name =>
    match env.lookup name with
    | none => .error (.missingKey name)
    | some key => if allBlank key.toList then .error (.missingKey name) else .ok key

/-- The settings that an environment holds. Of several faults the first is reported, in
the order provider, key, interface. -/
def Settings.ofEnvironment (env : Environment) : Except ServiceError Settings := do
  let provider ← Provider.parse ((env.lookup "LLM_PROVIDER").getD "anthropic")
  let key ← readKey env
  let model := (env.lookup "LLM_MODEL").getD provider.defaultModel
  let interface ← Interface.parse ((env.lookup "LLM_OPENAI_MODE").getD "chat_completions")
  let baseUrl := dropSlashes ((env.lookup "LLM_OPENAI_BASE_URL").getD defaultBaseUrl)
  return ⟨provider, key, model, interface, baseUrl, ⟨requestSeconds env, connectSeconds env⟩⟩

/-! ## Tuning requests -/

/-- The limits and the temperature of requests. The deadline is in milliseconds. -/
structure Tuning where
  deadline : Nat
  temperature : Binary
  maxTokens : Nat
deriving DecidableEq, Repr

/-- The tuning that an environment holds. -/
def Tuning.ofEnvironment (env : Environment) : Tuning :=
  ⟨1000 * requestSeconds env,
    env.readOr "LLM_TEMPERATURE" defaultTemperature Format.single.read?,
    env.readOr "LLM_MAX_TOKENS" defaultMaxTokens (naturalBelow? halfWordLimit)⟩

end Draftsman.Service
