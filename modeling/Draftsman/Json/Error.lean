/-
What can be wrong with a JSON text.

A text can break the grammar, and a text (or a value) can be fine as JSON and still not
be what a reader with a fixed form expects. The two kinds of fault are kept apart, since
only the second needs words for what was found and what was expected.
-/
import Draftsman.Json.Value
import Draftsman.Text.Letters

set_option autoImplicit false

namespace Draftsman.Json

/-! ## Faults of grammar -/

/-- A fault of grammar, at the first place where the text cannot go on as it does. -/
inductive SyntaxError where
  | endInArray
  | endInObject
  | endInString
  | endInValue
  | expectedColon
  | expectedItemEnd
  | expectedMemberEnd
  | expectedKeyword
  | expectedValue
  | trailingComma
  | trailingCharacters
  | keyNotString
  | invalidNumber
  | numberOutOfRange
  | invalidEscape
  | controlCharacter
  | loneSurrogate
  | halfSurrogatePair
  | tooDeep
deriving DecidableEq, Repr

/-- The wording of a fault of grammar. A message of the program ends with the place of the fault,
` at line L column C`; the readers here do not count lines and columns, so the place is left out. -/
def SyntaxError.message : SyntaxError → String
  | endInArray => "EOF while parsing a list"
  | endInObject => "EOF while parsing an object"
  | endInString => "EOF while parsing a string"
  | endInValue => "EOF while parsing a value"
  | expectedColon => "expected `:`"
  | expectedItemEnd => "expected `,` or `]`"
  | expectedMemberEnd => "expected `,` or `\x7d`"
  | expectedKeyword => "expected ident"
  | expectedValue => "expected value"
  | trailingComma => "trailing comma"
  | trailingCharacters => "trailing characters"
  | keyNotString => "key must be a string"
  | invalidNumber => "invalid number"
  | numberOutOfRange => "number out of range"
  | invalidEscape => "invalid escape"
  | controlCharacter => "control character (\\u0000-\\u001F) found while parsing a string"
  | loneSurrogate => "lone leading surrogate in hex escape"
  | halfSurrogatePair => "unexpected end of hex escape"
  | tooDeep => "recursion limit exceeded"

/-! ## Faults of form -/

/-- What a reader of a fixed form found instead of what it expected. -/
inductive Found where
  | null
  | bool (value : Bool)
  | integer (value : Int)
  | real (value : Number)
  | string (text : String)
  | sequence
  | map
deriving DecidableEq, Repr

/-- The wording of what was found. -/
def Found.text : Found → String
  | null => "null"
  | bool b => "boolean `" ++ (if b then "true" else "false") ++ "`"
  | integer n => "integer `" ++ toString n ++ "`"
  | real x => "floating point `" ++ x.text ++ "`"
  | string s => "string " ++ Text.quoted s
  | sequence => "sequence"
  | map => "map"

/-- What a value is, for a reader that expected something else. -/
def found : Json → Found
  | .null => .null
  | .bool b => .bool b
  | .number (.integer n) => .integer n
  | .number n => .real n
  | .string s => .string s
  | .array _ => .sequence
  | .object _ => .map

/-- A fault of form. -/
inductive Mismatch where
  | missingField (name : String)
  | duplicateField (name : String)
  | invalidType (found : Found) (expected : String)
  | invalidValue (found : Found) (expected : String)
  | invalidLength (length : Nat) (expected : String)
deriving DecidableEq, Repr

/-- The wording of a fault of form. -/
def Mismatch.message : Mismatch → String
  | missingField name => "missing field `" ++ name ++ "`"
  | duplicateField name => "duplicate field `" ++ name ++ "`"
  | invalidType found expected => "invalid type: " ++ found.text ++ ", expected " ++ expected
  | invalidValue found expected => "invalid value: " ++ found.text ++ ", expected " ++ expected
  | invalidLength n expected => "invalid length " ++ toString n ++ ", expected " ++ expected

/-! ## Either -/

/-- A fault found while reading a text into a fixed form. -/
inductive ReadError where
  | grammar (error : SyntaxError)
  | form (error : Mismatch)
deriving DecidableEq, Repr

/-- The wording of a fault of either kind. -/
def ReadError.message : ReadError → String
  | grammar e => e.message
  | form e => e.message

end Draftsman.Json
