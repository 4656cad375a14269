/-
The program: commands run on a terminal.

No transport for requests is built in. A configured service is therefore reported as out
of reach, and every command falls back to the current model or the draft.
-/
import Draftsman.CommandLine.EnvironmentFile
import Draftsman.CommandLine.Run

set_option autoImplicit false

namespace Draftsman.CommandLine

open Draftsman.Text Draftsman.Service Draftsman.Session

/-! ## The host -/

/-- The text that is left on a stream. -/
partial def readRest (stream : IO.FS.Stream) (sofar : String) : IO String := do
  let line ← stream.getLine
  if line.isEmpty then return sofar else readRest stream (sofar ++ line)

/-- The next line of a stream, without its line end. -/
def nextLine (stream : IO.FS.Stream) : IO (Option String) := do
  let line ← stream.getLine
  return (lines line.toList).head?.map String.ofList

/-- The terminal as a host. -/
def terminal : Host IO where
  fileText path := do
    try
      return some (← IO.FS.readFile path)
    catch _ => return none
  readAll := do readRest (← IO.getStdin) ""
  readLine := do nextLine (← IO.getStdin)
  print text := IO.print text
  report text := IO.eprint text
  warn code message := IO.eprintln ("WARN " ++ code ++ ": " ++ message)
  send _ := return .failed "no transport"

/-! ## The environment -/

/-- The variables that settings are read from. -/
def settingNames : List String :=
  ["TEXTUML_DIAGRAM_TYPE", "LLM_PROVIDER", "LLM_API_KEY_ENV", "LLM_MODEL", "LLM_OPENAI_MODE",
    "LLM_OPENAI_BASE_URL", "LLM_REQUEST_TIMEOUT_SECS", "LLM_CONNECT_TIMEOUT_SECS",
    "LLM_TEMPERATURE", "LLM_MAX_TOKENS"]

/-- The names that occur in an environment file. -/
def namesIn (text : String) : List String :=
  ((text.toList.splitOnP fun c => !isKeyPart c).filter fun name => !name.isEmpty).map String.ofList

/-- The variables among the given names that are set. -/
def environmentOf (names : List String) : IO Environment :=
  names.filterMapM fun name => do return (← IO.getEnv name).map fun value => (name, value)

/-- The environment with that of the environment file, and with the key. -/
def environment : IO Environment := do
  let text := (← terminal.fileText ".env").getD ""
  let env := withFile (← environmentOf (settingNames ++ namesIn text)) text
  return env ++ (← environmentOf (env.lookup "LLM_API_KEY_ENV").toList)

/-! ## The program -/

/-- Goes on with a conversation as long as it lasts. -/
partial def chatLoop (env : Environment) (settings : Option Settings) (kind : DiagramKind) :
    StateT Store IO Unit := do
  if ← chatStep terminal env settings kind then chatLoop env settings kind

/-- How the program is used. -/
def usage : String :=
  "usage: generate [--type TYPE] [--existing FILE] [--offline] [--json] [--input FILE | TEXT...]\n"
    ++ "       extract [--input FILE | TEXT...]\n"
    ++ "       render [--type TYPE] FILE\n"
    ++ "       chat [--type TYPE] [--offline]\n"

end Draftsman.CommandLine

open Draftsman.CommandLine in
/-- Runs the command that the arguments give. -/
def main (args : List String) : IO UInt32 := do
  let env ← environment
  match Command.ofArguments? env args with
  | none =>
    terminal.report usage
    return 2
  | some command =>
    match ← command.run terminal env (fun settings kind => (chatLoop env settings kind).run' .empty) with
    | .ok () => return 0
    | .error _ => return 1
