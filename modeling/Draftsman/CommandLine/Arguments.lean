/-
The arguments of the command line.

Arguments are scanned by a form that tells which options take a value, and then read as
a command. All mistakes are alike here: the caller is told how the program is used.
-/
import Draftsman.Service.Settings

set_option autoImplicit false

namespace Draftsman.CommandLine

open Draftsman.Service

/-! ## Scanning -/

/-- What kinds of argument a command knows. -/
structure Form where
  /-- Options that are followed by a value. -/
  valued : List String
  /-- Options without a value. -/
  flags : List String

/-- Arguments that have been told apart. -/
structure Scanned where
  values : List (String × String)
  flags : List String
  operands : List String
deriving DecidableEq, Repr

/-- What an argument looks like. -/
inductive Shape where
  | operand
  | separator
  | option (name : List Char) (attached : Option (List Char))
  | unknown
deriving DecidableEq, Repr

/-- The shape of an argument. Two dashes start the name of an option, to which a value
may be attached by an equals sign; one dash alone is an operand. -/
def shape (arg : String) : Shape :=
  match arg.toList with
  | ['-', '-'] => .separator
  | '-' :: '-' :: cs =>
    .option (cs.takeWhile (· ≠ '=')) (match cs.dropWhile (· ≠ '=') with
      | [] => none
      | _ :: value => some value)
  | '-' :: _ :: _ => .unknown
  | _ => .operand

/-- Scans arguments. No option may be given twice, and no value that follows its option
may look like an option. -/
def scan (form : Form) (sofar : Scanned) : List String → Option Scanned
  | [] => some sofar
  | arg :: rest =>
    match shape arg with
    | .operand => scan form { sofar with operands := sofar.operands ++ [arg] } rest
    | .separator => some { sofar with operands := sofar.operands ++ rest }
    | .unknown => none
    | .option letters attached =>
      let name := String.ofList letters
      if form.flags.contains name then
        if attached.isSome || sofar.flags.contains name then none
        else scan form { sofar with flags := name :: sofar.flags } rest
      else if form.valued.contains name && (sofar.values.lookup name).isNone then
        match attached with
        | some value =>
          scan form { sofar with values := (name, String.ofList value) :: sofar.values } rest
        | none =>
          match rest with
          | [] => none
          | value :: rest =>
            if shape value = .operand then
              scan form { sofar with values := (name, value) :: sofar.values } rest
            else none
      else none

/-! ## Commands -/

/-- Where the text comes from. -/
inductive Input where
  | file (path : String)
  | words (words : List String)
  | standard
deriving DecidableEq, Repr

/-- What the program is told to do. -/
inductive Command where
  | generate (type : String) (current : Option String) (offline json : Bool) (input : Input)
  | extract (input : Input)
  | render (type : String) (file : String)
  | chat (type : String) (offline : Bool)
deriving DecidableEq, Repr

/-- The type of diagram: as given, else as the environment says, else of classes. -/
def diagramType (env : Environment) (s : Scanned) : String :=
  (s.values.lookup "type").getD ((env.lookup "TEXTUML_DIAGRAM_TYPE").getD "class")

/-- The path given by an option. It must not be empty. -/
def path? (name : String) (s : Scanned) : Option (Option String) :=
  match s.values.lookup name with
  | none => some none
  | some "" => none
  | some path => some (some path)

/-- The input given by arguments: a file or words, but not both. -/
def input? (s : Scanned) : Option Input := do
  match ← path? "input" s with
  | some path => if s.operands.isEmpty then some (.file path) else none
  | none => return if s.operands.isEmpty then .standard else .words s.operands

/-- The form of a command. -/
def form? : String → Option Form
  | "generate" => some ⟨["type", "existing", "input"], ["offline", "json"]⟩
  | "extract" => some ⟨["input"], []⟩
  | "render" => some ⟨["type"], []⟩
  | "chat" => some ⟨["type"], ["offline"]⟩
  | _ => none

/-- Reads the arguments of a command. -/
def command? (env : Environment) (name : String) (s : Scanned) : Option Command :=
  match name with
  | "generate" => do
    return .generate (diagramType env s) (← path? "existing" s) (s.flags.contains "offline")
      (s.flags.contains "json") (← input? s)
  | "extract" => (input? s).map .extract
  | "render" =>
    match s.operands with
    | [file] => if file = "" then none else some (.render (diagramType env s) file)
    | _ => none
  | "chat" =>
    if s.operands.isEmpty then some (.chat (diagramType env s) (s.flags.contains "offline"))
    else none
  | _ => none

/-- The command that arguments give; none if the program is not used so. -/
def Command.ofArguments? (env : Environment) : List String → Option Command
  | [] => none
  | name :: args => do
    let form ← form? name
    command? env name (← scan form ⟨[], [], []⟩ args)

end Draftsman.CommandLine
