/-
Understanding the reply of a completion service.

The candidates are tried one after the other, and the first that is a JSON object is the
payload. A candidate is repaired before it is parsed, and never parsed a second time: a
string that holds JSON stays a string.
-/
import Draftsman.Json.Parser
import Draftsman.Text.Blank
import Draftsman.Text.Case
import Draftsman.Text.Search

set_option autoImplicit false

namespace Draftsman.Reply

open Draftsman.Text

/-! ## Candidates

A completion service is asked for one JSON object and nothing else, and often answers with
something around it. Three places are looked at, from the most to the least telling: a fence
marked as JSON, any fence, and all that lies between the first opening and the last closing
brace. -/

/-- The mark that opens and closes a fence. -/
def fence : List Char := "```".toList

/-- The mark that opens a fence of JSON, in small letters. -/
def jsonFenceMark : List Char := "```json".toList

/-- The body of the first fence that is marked as JSON, in letters of either case. A
fence that is never closed runs to the end. -/
def jsonFence? (reply : List Char) : Option (List Char) :=
  (afterFirst? lowerPlain jsonFenceMark reply).map (beforeFirst fence)

/-- The text of a fence without the rest of its opening line, which may describe the
content. If the fence closes on that line, the line is content itself. -/
def skipInfo (body : List Char) : List Char :=
  match body.dropWhile (· ≠ '\n') with
  | [] => body
  | _ :: below => if occurs fence (body.takeWhile (· ≠ '\n')) then body else below

/-- The body of the first fence. -/
def anyFence? (reply : List Char) : Option (List Char) :=
  (afterFirst? id fence reply).map fun body => beforeFirst fence (skipInfo body)

/-- From the first opening brace to the last closing one after it. -/
def braceSpan? (reply : List Char) : Option (List Char) :=
  match dropEndWhile (· ≠ '}') (reply.dropWhile (· ≠ '{')) with
  | [] => none
  | span => some span

/-- The texts that may be the payload, in the order in which they are tried, each once
and without blanks around it. -/
def candidates (reply : List Char) : List (List Char) :=
  let places := [jsonFence? reply, anyFence? reply, braceSpan? reply]
  ((places.filterMap id).map trimChars |>.filter (fun c => !c.isEmpty)).eraseDups

/-! ## Repair

The one fault worth repairing is a comma before a closing bracket. Commas within string literals
are left alone, so a valid text is never changed. -/

/-- Where a character stands: outside string literals, in one, or in one after a
backslash. -/
inductive Position where
  | outside
  | inside
  | escaped
deriving DecidableEq, Repr

/-- Where the character after `c` stands. -/
def Position.next (p : Position) (c : Char) : Position :=
  match p with
  | outside => if c = '"' then inside else outside
  | inside => if c = '\\' then escaped else if c = '"' then outside else inside
  | escaped => inside

/-- Whether a closing bracket is the first thing in a text that is not blank. -/
def closesNext (cs : List Char) : Bool :=
  match trimStart cs with
  | c :: _ => c == '}' || c == ']'
  | [] => false

/-- Strips from a text, which begins at the given position, the commas before closing
brackets. -/
def stripFrom (p : Position) : List Char → List Char
  | [] => []
  | c :: cs =>
    let rest := stripFrom (p.next c) cs
    if p = .outside && c = ',' && closesNext cs then rest else c :: rest

/-- A text without the commas before closing brackets. -/
def stripTrailingCommas (cs : List Char) : List Char := stripFrom .outside cs

/-! ## Faults -/

/-- Why a reply has no payload. -/
inductive InterpretError where
  | empty
  | noCandidate
  | malformed (reason : String)
  | notAnObject (found : String)
deriving DecidableEq, Repr

namespace InterpretError

/-- The code of a fault, for log lines and callers. -/
def code : InterpretError → String
  | empty => "E_INTERPRET_EMPTY"
  | noCandidate => "E_INTERPRET_NO_JSON"
  | malformed _ => "E_INTERPRET_PARSE"
  | notAnObject _ => "E_INTERPRET_NOT_OBJECT"

/-- The wording of a fault. -/
def message : InterpretError → String
  | empty => "completion text is empty"
  | noCandidate => "no JSON object found in completion text"
  | malformed reason => "JSON payload did not parse: " ++ reason
  | notAnObject found => "JSON payload is " ++ found ++ ", expected an object"

end InterpretError

/-! ## Reading -/

/-- What a value is called where an object is expected. -/
def kindName : Json → String
  | .null => "null"
  | .bool _ => "a boolean"
  | .number _ => "a number"
  | .string _ => "a string"
  | .array _ => "an array"
  | .object _ => "an object"

/-- Reads one candidate. -/
def readCandidate (candidate : List Char) : Except InterpretError Json :=
  match Json.parseChars (stripTrailingCommas candidate) with
  | .error e => .error (.malformed e.message)
  | .ok (.object members) => .ok (.object members)
  | .ok other => .error (.notAnObject (kindName other))

/-- The first candidate that can be read; if there is none, the fault of the last one. -/
def firstReadable (fault : InterpretError) : List (List Char) → Except InterpretError Json
  | [] => .error fault
  | candidate :: rest =>
    match readCandidate candidate with
    | .ok payload => .ok payload
    | .error e => firstReadable e rest

/-- The payload of a reply: a JSON object. -/
def interpret (reply : String) : Except InterpretError Json :=
  if allBlank reply.toList then .error .empty
  else firstReadable .noCandidate (candidates reply.toList)

end Draftsman.Reply
