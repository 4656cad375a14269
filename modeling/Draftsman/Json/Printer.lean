/-
Writing JSON, on one line or over several.
-/
import Draftsman.Json.Value

set_option autoImplicit false

namespace Draftsman.Json

/-! ## Strings -/

/-- One of the sixteen hexadecimal digits, in small letters. -/
def hexDigit (n : Nat) : Char := if n < 10 then Char.ofNat (48 + n) else Char.ofNat (87 + n)

/-- A character inside a string literal. Only the quote, the backslash and the controls
below the space are escaped. -/
def escapeChar (c : Char) : List Char :=
  match c with
  | '"' => ['\\', '"']
  | '\\' => ['\\', '\\']
  | '\n' => ['\\', 'n']
  | '\r' => ['\\', 'r']
  | '\t' => ['\\', 't']
  | '\x08' => ['\\', 'b']
  | '\x0c' => ['\\', 'f']
  | c =>
    if c.toNat < 0x20 then
      ['\\', 'u', '0', '0', hexDigit (c.toNat / 16), hexDigit (c.toNat % 16)]
    else [c]

/-- A string literal. -/
def quote (s : String) : List Char := '"' :: (s.toList.flatMap escapeChar ++ ['"'])

/-! ## Values -/

/-- The text of a value that is not a container. -/
def scalar : Json → List Char
  | null => "null".toList
  | bool b => (if b then "true" else "false").toList
  | number n => n.text.toList
  | string s => quote s
  | _ => []

mutual

/-- A value without any white space. -/
def compactChars : Json → List Char
  | array items => '[' :: (compactItems items ++ [']'])
  | object members => '{' :: (compactMembers members ++ ['}'])
  | v => scalar v

/-- Items separated by commas. -/
def compactItems : List Json → List Char
  | [] => []
  | [v] => compactChars v
  | v :: rest => compactChars v ++ ',' :: compactItems rest

/-- Members separated by commas. -/
def compactMembers : List (String × Json) → List Char
  | [] => []
  | [(k, v)] => quote k ++ ':' :: compactChars v
  | (k, v) :: rest => quote k ++ ':' :: (compactChars v ++ ',' :: compactMembers rest)

end

/-- The text of a value on one line. -/
def compact (v : Json) : String := String.ofList (compactChars v)

/-- A line feed and the indentation of the given depth. -/
def newline (depth : Nat) : List Char := '\n' :: List.replicate (2 * depth) ' '

mutual

/-- A value over several lines: each item and member on its own, two spaces deeper than
its container. An empty container stays on one line. -/
def prettyChars (depth : Nat) : Json → List Char
  | array [] => ['[', ']']
  | array (v :: rest) => '[' :: (prettyItems (depth + 1) (v :: rest) ++ newline depth ++ [']'])
  | object [] => ['{', '}']
  | object (m :: rest) => '{' :: (prettyMembers (depth + 1) (m :: rest) ++ newline depth ++ ['}'])
  | v => scalar v

/-- Items, each on its own line. -/
def prettyItems (depth : Nat) : List Json → List Char
  | [] => []
  | [v] => newline depth ++ prettyChars depth v
  | v :: rest => newline depth ++ prettyChars depth v ++ ',' :: prettyItems depth rest

/-- Members, each on its own line. -/
def prettyMembers (depth : Nat) : List (String × Json) → List Char
  | [] => []
  | [(k, v)] => newline depth ++ quote k ++ ':' :: ' ' :: prettyChars depth v
  | (k, v) :: rest =>
    newline depth ++ quote k ++ ':' :: ' ' :: (prettyChars depth v ++ ',' :: prettyMembers depth rest)

end

/-- The text of a value over several lines. -/
def pretty (v : Json) : String := String.ofList (prettyChars 0 v)

end Draftsman.Json
