/-
Running commands, and the documents that they write and read.

Commands run by whatever means a host has for files, streams and requests, so that the
same commands serve a terminal and a test.
-/
import Draftsman.CommandLine.Arguments
import Draftsman.Diagram.Decode
import Draftsman.Diagram.Encode
import Draftsman.Generation.Outcome
import Draftsman.Json.Parser
import Draftsman.Service.Client
import Draftsman.Session.Session

set_option autoImplicit false

namespace Draftsman.CommandLine

open Draftsman.Text Draftsman.Service Draftsman.Generation Draftsman.Session

/-! ## Documents -/

/-- The reason for a fallback as JSON. -/
def fallbackJson : Option Fallback → Json
  | none => .null
  | some reason => .object [("code", .string reason.code), ("message", .string reason.message)]

/-- An outcome as JSON. -/
def outcomeJson (o : Outcome) : Json := .object
  [("diagram_type", .string o.kind.name),
    ("model", o.model.toJson),
    ("plantuml", .string o.diagram),
    ("explanation", .string o.explanation),
    ("source", .string o.source.name),
    ("fallback", fallbackJson o.fallback)]

/-- The document of an outcome, with all members in the order of their keys. -/
def document (o : Outcome) : String := (outcomeJson o).sorted.pretty

/-- The value that stands for the model in a document. A document may hold the model
under a key or be the model itself. -/
def modelPart (value : Json) : Json :=
  match value.get? "model" with
  | some (.object members) => .object members
  | _ => value

/-- Reads a model from a document. -/
def readModel (kind : DiagramKind) (text : String) : Except Json.ReadError Model :=
  match Json.parse text with
  | .error fault => .error (.grammar fault)
  | .ok value =>
    match Model.ofJson kind (modelPart value) with
    | .error fault => .error (.form fault)
    | .ok model => .ok model

/-! ## Hosts -/

/-- Why a command failed. -/
inductive CommandError where
  | unknownDiagramType (raw : String)
  | missingInput
  | unreadableFile (path : String)
  | invalidJson (fault : Json.ReadError)
deriving DecidableEq, Repr

namespace CommandError

/-- The code of a fault, for log lines. -/
def code : CommandError → String
  | unknownDiagramType _ => "E_UNKNOWN_DIAGRAM_TYPE"
  | missingInput => "E_MISSING_INPUT"
  | unreadableFile _ => "E_READ_FILE"
  | invalidJson _ => "E_INVALID_JSON"

/-- The wording of a fault. -/
def message : CommandError → String
  | unknownDiagramType raw =>
    "unknown diagram type \x60" ++ raw ++ "\x60 (expected class, usecase or sequence)"
  | missingInput => "no input text; pass TEXT, --input FILE or pipe it on stdin"
  | unreadableFile path => "read " ++ path ++ " failed"
  | invalidJson fault => "invalid model JSON: " ++ fault.message

end CommandError

/-- The means of a host. -/
structure Host (m : Type → Type) where
  /-- The text of a file, if it can be read. -/
  fileText : String → m (Option String)
  /-- All that is left of the standard input. -/
  readAll : m String
  /-- The next line of the standard input, if there is one. -/
  readLine : m (Option String)
  /-- Writes to the standard output. -/
  print : String → m Unit
  /-- Writes to the standard error. -/
  report : String → m Unit
  /-- Writes a warning to the log. -/
  warn : (code message : String) → m Unit
  /-- Sends a request. -/
  send : Post → m Delivery

section Commands

variable {m : Type → Type} [Monad m] (host : Host m) (env : Environment)

/-- Commands can fail. -/
abbrev Run (m : Type → Type) := ExceptT CommandError m

/-! ## Parts of commands -/

/-- Reads a file. -/
def readFile (path : String) : Run m String := do
  match ← host.fileText path with
  | some text => return text
  | none => throw (.unreadableFile path)

/-- The kind of diagram of the given name. -/
def readKind (raw : String) : Run m DiagramKind :=
  match DiagramKind.parse? raw with
  | some kind => return kind
  | none => throw (.unknownDiagramType raw)

/-- The text of an input, which must not be blank. -/
def readInput (input : Input) : Run m String := do
  let text ← match input with
    | .file path => readFile host path
    | .words words => pure (String.intercalate " " words)
    | .standard => host.readAll
  if allBlank text.toList then throw .missingInput else return text

/-- Loads a model from a file. -/
def loadModel (path : String) (kind : DiagramKind) : Run m Model := do
  match readModel kind (← readFile host path) with
  | .ok model => return model
  | .error fault => throw (.invalidJson fault)

/-- The settings for reaching the service, unless it is not wanted or not configured. -/
def connect (offline : Bool) : m (Option Settings) :=
  if offline then return none
  else
    match Settings.ofEnvironment env with
    | .ok settings => return some settings
    | .error fault => do
      host.warn fault.code fault.message
      return none

/-- How the service reacts to a request. The wait is over when the reaction is here. -/
def react (settings : Option Settings) (request : Request) : m Reaction :=
  match settings with
  | some settings => do return ⟨0, ← settings.ask host.send request⟩
  | none => return ⟨0, .error (.requestFailed "")⟩

/-- Warns of a model that is not the one of the service. -/
def warnFallback (outcome : Outcome) : m Unit :=
  match outcome.fallback with
  | some reason => host.warn reason.code reason.message
  | none => return

/-! ## The commands -/

/-- Generates a diagram and prints it, or a document about it. -/
def runGenerate (type : String) (current : Option String) (offline json : Bool)
    (input : Input) : Run m Unit := do
  let kind ← readKind type
  let text ← readInput host input
  let current ← match current with
    | some path => some <$> loadModel host path kind
    | none => pure none
  let settings ← ExceptT.lift (connect host env offline)
  let generation := generate settings.isSome (Tuning.ofEnvironment env) ⟨text, kind, current⟩
  let outcome ← ExceptT.lift (generation.run (react host settings))
  ExceptT.lift (warnFallback host outcome)
  host.print ((if json then document outcome else outcome.diagram) ++ "\n")

/-- Prints the draft of a class diagram. -/
def runExtract (input : Input) : Run m Unit := do
  let text ← readInput host input
  host.print ((Model.classes (Extraction.extract text)).text ++ "\n")

/-- Prints the diagram of a stored model. -/
def runRender (type file : String) : Run m Unit := do
  let kind ← readKind type
  let model ← loadModel host file kind
  host.print (Markup.render model ++ "\n")

/-! ## Conversations -/

/-- The id under which the turns of a conversation are kept. -/
def conversationId : String := "conversation"

/-- What can be said in a conversation. -/
inductive Utterance where
  | nothing
  | quit
  | reset
  | text (text : String)
deriving DecidableEq, Repr

/-- What a line of a conversation says. -/
def utterance (line : String) : Utterance :=
  match trim line with
  | "" => .nothing
  | "/quit" | "/exit" => .quit
  | "/reset" => .reset
  | text => .text text

/-- The means for procedures over a store that is part of the state. -/
def means (settings : Option Settings) : Means (StateT Store m) where
  load id := return .ok ((← get).get? id)
  save id history := do
    modify fun store => store.put id history
    return .ok ()
  remove id := do
    let found := ((← get).get? id).isSome
    modify fun store => store.delete id
    return .ok found
  ask request := StateT.lift (react host settings request)

/-- The remark on a model that is not the one of the service. -/
def remark (outcome : Outcome) : String :=
  match outcome.fallback with
  | some reason => "(" ++ outcome.source.name ++ " model kept: " ++ reason.message ++ ")\n"
  | none => ""

/-- One turn of a conversation: edits the diagram and prints it. -/
def converse (settings : Option Settings) (kind : DiagramKind) (text : String) :
    StateT Store m Unit := do
  let context : Context := ⟨settings.isSome, Tuning.ofEnvironment env⟩
  let outcome ← (context.submit conversationId text kind).run (means host settings)
  StateT.lift (warnFallback host outcome)
  host.print (outcome.diagram ++ "\n")
  host.report (remark outcome)

/-- Answers a line of a conversation, and tells whether the conversation goes on. -/
def answerLine (settings : Option Settings) (kind : DiagramKind) (line : String) :
    StateT Store m Bool :=
  match utterance line with
  | .nothing => return true
  | .quit => return false
  | .reset => do
    let _ ← (reset conversationId).run (means host settings)
    host.report "(history cleared)\n"
    return true
  | .text text => do
    converse host env settings kind text
    return true

/-- What is said before a conversation. -/
def greeting : String :=
  "Describe the system; each line edits the diagram. /reset starts over, /quit exits.\n"

/-- What is said before each line. -/
def promptSign : String := "> "

/-- One step of a conversation: asks for a line and answers it. Tells whether the
conversation goes on; it ends with the input. -/
def chatStep (settings : Option Settings) (kind : DiagramKind) : StateT Store m Bool := do
  host.report promptSign
  match ← host.readLine with
  | none => return false
  | some line => answerLine host env settings kind line

/-- Begins a conversation: the kind of its diagram and the service that takes part. -/
def beginChat (type : String) (offline : Bool) : Run m (DiagramKind × Option Settings) := do
  let kind ← readKind type
  let settings ← ExceptT.lift (connect host env offline)
  host.report greeting
  return (kind, settings)

/-! ## All of them -/

/-- Runs a command. The steps of a conversation are repeated by `goOn`. -/
def runCommand (goOn : Option Settings → DiagramKind → m Unit) : Command → Run m Unit
  | .generate type current offline json input =>
    runGenerate host env type current offline json input
  | .extract input => runExtract host input
  | .render type file => runRender host type file
  | .chat type offline => do
    let (kind, settings) ← beginChat host env type offline
    ExceptT.lift (goOn settings kind)

/-- Runs a command and warns if it fails. -/
def Command.run (goOn : Option Settings → DiagramKind → m Unit) (command : Command) :
    m (Except CommandError Unit) := do
  let result ← (runCommand host env goOn command).run
  match result with
  | .ok () => return result
  | .error fault => do
    host.warn fault.code fault.message
    return result

end Commands

end Draftsman.CommandLine
