/-
Parsing JSON.

The depth to which containers may be nested is limited, and the reader of a value is
recursive on the depth that is left. Within one container the text gets shorter with
every part. So no other measure of progress is needed.
-/
import Draftsman.Json.Container
import Draftsman.Json.Numeral

set_option autoImplicit false

namespace Draftsman.Json

/-- How many containers may be open at once. -/
def maxDepth : Nat := 127

/-- The value of a keyword, whose first letter has been read. -/
def keyword (rest : String) (value : Json) (tail : List Char) :
    Except SyntaxError (Json × NoLonger tail) :=
  match scanKeyword rest.toList tail with
  | .error e => .error e
  | .ok rest => .ok (value, rest)

/-- Reads one member into the members read before it: a colon and a value. -/
def readMember (value : (cs : List Char) → Step SyntaxError Json cs)
    (members : List (String × Json)) (key : List Char) (cs : List Char) :
    Step SyntaxError (List (String × Json)) cs :=
  match scanColon cs with
  | .error e => .error e
  | .ok rest =>
    match value rest.1 with
    | .error e => .error e
    | .ok (v, rest') => .ok (insertMember (String.ofList key) v members, rest.andThen rest'.relax)

/-- Reads a value after its first character `c`, with `room` more containers allowed to
be open. -/
def valueAfter (room : Nat) (c : Char) (tail : List Char) :
    Except SyntaxError (Json × NoLonger tail) :=
  if c = 'n' then keyword "ull" .null tail
  else if c = 't' then keyword "rue" (.bool true) tail
  else if c = 'f' then keyword "alse" (.bool false) tail
  else if c = '-' then
    match scanNumber true tail with
    | .error e => .error e
    | .ok (n, rest) => .ok (.number n, rest.relax)
  else if c.isDigit then
    match scanNumber false (c :: tail) with
    | .error e => .error e
    | .ok (n, rest) => .ok (.number n, rest.uncons)
  else if c = '"' then
    match scanString tail with
    | .error e => .error e
    | .ok (text, rest) => .ok (.string (String.ofList text), rest.relax)
  else if c = '[' then
    match room with
    | 0 => .error .tooDeep
    | room + 1 =>
      match readItems id (atStart id (valueAfter room)) true tail with
      | .error e => .error e
      | .ok (items, rest) => .ok (.array items, rest.relax)
  else if c = '{' then
    match room with
    | 0 => .error .tooDeep
    | room + 1 =>
      match readMembers id (readMember (atStart id (valueAfter room))) true [] tail with
      | .error e => .error e
      | .ok (members, rest) => .ok (.object members, rest.relax)
  else .error .expectedValue

/-- Reads a value at the top of a text. -/
def readValue (cs : List Char) : Step SyntaxError Json cs := atStart id (valueAfter maxDepth) cs

/-- The value that a text of characters writes, with nothing but white space around it. -/
def parseChars (cs : List Char) : Except SyntaxError Json :=
  match readValue cs with
  | .error e => .error e
  | .ok (value, ⟨rest, _⟩) =>
    if (skipSpace rest).isEmpty then .ok value else .error .trailingCharacters

/-- The value that a text writes. -/
def parse (text : String) : Except SyntaxError Json := parseChars text.toList

end Draftsman.Json
