/-
Environment files: variables that are set unless they are set already.

A line assigns a value to a key. Values may be quoted, in strong quotes that take
everything as it stands or in weak quotes that know escapes and the values of other
variables. Reading stops at the first line that cannot be read; the lines before it count.
-/
import Draftsman.Service.Settings
import Draftsman.Text.Letters

set_option autoImplicit false

namespace Draftsman.CommandLine

open Draftsman.Text Draftsman.Service

/-! ## Lines

A quote that is open at the end of a line makes it go on with the next. -/

/-- What the end of a text so far means for the character after it. -/
inductive LineState where
  | complete
  | blank
  | escape
  | weak
  | weakEscape
  | strong
  | strongEscape
deriving DecidableEq, Repr

/-- The state after a character that opens no comment. -/
def LineState.plain (c : Char) : LineState :=
  if c = '\\' then escape
  else if c = '"' then weak
  else if c = '\'' then strong
  else complete

/-- The state after a character; none if the character opens a comment. -/
def LineState.next? (s : LineState) (c : Char) : Option LineState :=
  match s with
  | blank => if c = '#' then none else some (plain c)
  | complete =>
    if isBlank c && c != '\n' && c != '\r' then some blank else some (plain c)
  | escape => some complete
  | weak => some (if c = '\\' then weakEscape else if c = '"' then complete else weak)
  | weakEscape => some weak
  | strong => some (if c = '\\' then strongEscape else if c = '\'' then complete else strong)
  | strongEscape => some strong

/-- The part of a line before a comment, and the state at the end of the line; none if
there is a comment. -/
def scanLine (s : LineState) : List Char → List Char × Option LineState
  | [] => ([], some s)
  | c :: cs =>
    match s.next? c with
    | none => ([], none)
    | some next =>
      let (content, final) := scanLine next cs
      (c :: content, final)

/-- The lines of a text, each with the line feed at its end. -/
def rawLines (cs : List Char) : List (List Char) :=
  let pieces := cs.splitOnP (· == '\n')
  pieces.dropLast.map (· ++ ['\n']) ++ pieces.getLast?.toList.filter (fun line => !line.isEmpty)

/-- Joins lines that belong together and drops comments. A text that ends before a line
is complete yields no line in the end. -/
def joinLines (s : LineState) (before : List Char) :
    List (List Char) → List (Option (List Char))
  | [] => if s = .complete then [] else [none]
  | line :: rest =>
    if (trimStart (before ++ line)).head? = some '#' then
      some [] :: joinLines .complete [] rest
    else
      match scanLine s line with
      | (content, none) => some (before ++ content) :: joinLines .complete [] rest
      | (content, some .complete) => some (before ++ content) :: joinLines .complete [] rest
      | (content, some other) => joinLines other (before ++ content) rest

/-! ## Values -/

/-- Where a character of a value stands. Within weak quotes and outside of quotes, a
dollar sign starts the name of a variable, which may be in braces. -/
inductive ValueState where
  | plain
  | weak
  | strong
  | escape (quoted : Bool)
  | name (quoted : Bool) (letters : List Char)
  | bracedName (quoted : Bool) (letters : List Char)
  | finished
deriving DecidableEq, Repr

/-- The state within or outside of weak quotes. -/
def ValueState.open (quoted : Bool) : ValueState := if quoted then weak else plain

/-- The character that an escape stands for. -/
def escapedValue? (c : Char) : Option Char :=
  if c = 'n' then some '\n'
  else if ['\\', '\'', '"', '$', ' '].contains c then some c
  else none

/-- The value of a variable; a variable that is not set has none. -/
def substitute (env : Environment) (letters : List Char) : List Char :=
  ((env.lookup (String.ofList letters)).getD "").toList

/-- What a character adds to a value, and the state after it; none if the value cannot be
read. -/
def ValueState.next? (env : Environment) (s : ValueState) (c : Char) :
    Option (List Char × ValueState) :=
  match s with
  | finished => if c = ' ' || c = '\t' then some ([], finished) else none
  | escape quoted => (escapedValue? c).map fun x => ([x], .open quoted)
  | strong => some (if c = '\'' then ([], plain) else ([c], strong))
  | name quoted letters =>
    if isAlphanumeric c then some ([], name quoted (letters ++ [c]))
    else if c = '{' && letters.isEmpty then some ([], bracedName quoted [])
    else if c = '$' then some (substitute env letters, name quoted [])
    else some (substitute env letters ++ [c], .open quoted)
  | bracedName quoted letters =>
    if c = '}' then some (substitute env letters, .open quoted)
    else some ([], bracedName quoted (letters ++ [c]))
  | weak =>
    if c = '$' then some ([], name true [])
    else if c = '"' then some ([], plain)
    else if c = '\\' then some ([], escape true)
    else some ([c], weak)
  | plain =>
    if c = '$' then some ([], name false [])
    else if c = '\'' then some ([], strong)
    else if c = '"' then some ([], weak)
    else if c = '\\' then some ([], escape false)
    else if c = ' ' || c = '\t' then some ([], finished)
    else some ([c], plain)

/-- What the end of a text adds to a value. Quotes and braces must be closed. -/
def ValueState.finish? (env : Environment) : ValueState → Option (List Char)
  | name false letters => some (substitute env letters)
  | plain | finished | escape false => some []
  | name true _ | weak | strong | escape true | bracedName .. => none

/-- Reads a value, up to a comment after it. -/
def readValue? (env : Environment) (s : ValueState) : List Char → Option (List Char)
  | [] => s.finish? env
  | c :: cs =>
    if s = .finished && c = '#' then some []
    else do
      let (added, next) ← s.next? env c
      let rest ← readValue? env next cs
      return added ++ rest

/-! ## Assignments -/

/-- What a line says. -/
inductive Entry where
  | nothing
  | assignment (key : String) (value : List Char)
deriving DecidableEq, Repr

/-- A character of a key after the first. -/
def isKeyPart (c : Char) : Bool := isPlainAlphanumeric c || c == '_' || c == '.'

/-- Reads a key and the blanks after it. -/
def readKey? (cs : List Char) : Option (List Char × List Char) :=
  if cs.head?.any fun c => isPlainLetter c || c == '_' then
    some (cs.takeWhile isKeyPart, trimStart (cs.dropWhile isKeyPart))
  else none

/-- What follows the equals sign at the start of a text. -/
def afterEquals? : List Char → Option (List Char)
  | '=' :: cs => some cs
  | _ => none

/-- Reads a key with its equals sign. The key may be marked for export, and the mark
itself may be a key. -/
def readTarget? (cs : List Char) : Option (List Char × List Char) := do
  let (key, rest) ← readKey? cs
  match afterEquals? rest with
  | some value => return (key, value)
  | none =>
    if key = "export".toList then
      let (key, rest) ← readKey? rest
      return (key, ← afterEquals? rest)
    else none

/-- Whether nothing but a comment is left of a line. -/
def isVacant (cs : List Char) : Bool := cs.head?.all (· == '#')

/-- Reads a line; none if it cannot be read. -/
def readEntry? (env : Environment) (line : List Char) : Option Entry := do
  let text := trimChars line
  if isVacant text then return .nothing
  let (key, rest) ← readTarget? text
  let rest := trimStart rest
  let value ← if isVacant rest then some [] else readValue? env .plain rest
  return .assignment (String.ofList key) value

/-- The environment with a variable, unless it is set already. -/
def define (env : Environment) (key : String) (value : List Char) : Environment :=
  if (env.lookup key).isSome then env else env ++ [(key, String.ofList value)]

/-- Takes lines into an environment, up to the first that cannot be read. -/
def defineLines (env : Environment) : List (Option (List Char)) → Environment
  | [] => env
  | none :: _ => env
  | some line :: rest =>
    match readEntry? env line with
    | none => env
    | some .nothing => defineLines env rest
    | some (.assignment key value) => defineLines (define env key value) rest

/-- The environment with the variables of a file. Variables that are set already keep
their values. -/
def withFile (env : Environment) (text : String) : Environment :=
  let cs := match text.toList with
    | '\uFEFF' :: cs => cs
    | cs => cs
  defineLines env (joinLines .complete [] (rawLines cs))

end Draftsman.CommandLine
