/-
Reading a JSON text into a fixed form.

The text is read once, from left to right, and the first fault in reading order is the
one reported, be it of grammar or of form. That is why a record is not parsed first and
looked into afterwards: a wrong type near the beginning hides a broken bracket near the
end.
-/
import Draftsman.Json.Parser
import Draftsman.Json.Skip

set_option autoImplicit false

namespace Draftsman.Json

/-! ## Scalars -/

/-- Reads a text into a value of some form, with `room` more containers allowed to be
open. -/
abbrev Reader (α : Type) := (room : Nat) → (cs : List Char) → Step ReadError α cs

/-- The fault of a value that begins with `c` and is not what is expected. A scalar is
read to its end, so that a fault of grammar in it comes first. -/
def unexpected (expected : String) (c : Char) (tail : List Char) : ReadError :=
  if c = '[' then .form (.invalidType .sequence expected)
  else if c = '{' then .form (.invalidType .map expected)
  else
    match valueAfter 0 c tail with
    | .error e => .grammar e
    | .ok (value, _) => .form (.invalidType (found value) expected)

/-- Reads a string. -/
def readText (expected : String) : Reader String := fun _ =>
  atStart .grammar fun c tail =>
    if c = '"' then
      match scanString tail with
      | .error e => .error (.grammar e)
      | .ok (text, rest) => .ok (String.ofList text, rest.relax)
    else .error (unexpected expected c tail)

/-- Reads a string that may be null. -/
def readOptionalText (expected : String) : Reader (Option String) := fun room cs =>
  match skipSpace cs with
  | 'n' :: _ =>
    atStart .grammar (fun _ tail =>
      match scanKeyword "ull".toList tail with
      | .error e => .error (.grammar e)
      | .ok rest => .ok (none, rest)) cs
  | _ =>
    match readText expected room cs with
    | .error e => .error e
    | .ok (text, rest) => .ok (some text, rest)

/-- Reads a number that is not negative and fits 64 bits. -/
def readNatural (expected : String) : Reader Nat := fun _ =>
  atStart .grammar fun c tail =>
    match valueAfter 0 c tail with
    | .ok (.number (.integer n), rest) =>
      if 0 ≤ n then .ok (n.toNat, rest)
      else .error (.form (.invalidValue (.integer n) expected))
    | _ => .error (unexpected expected c tail)

/-! ## Sequences -/

/-- Reads a value that is a sequence of values of one form. -/
def readSequence {α : Type} (expected : String) (item : Reader α) : Reader (List α) :=
  fun room => atStart .grammar fun c tail =>
    if c = '[' then
      match room with
      | 0 => .error (.grammar .tooDeep)
      | room + 1 => (readItems .grammar (item room) true tail).relax
    else .error (unexpected expected c tail)

/-- Reads the end of an array all of whose items have been read. -/
def scanArrayEnd (cs : List Char) : Except SyntaxError (Shorter cs) :=
  match h : skipSpace cs with
  | [] => .error .endInArray
  | c :: tail =>
    if c = ']' then .ok ⟨tail, length_tail_skipSpace_lt h⟩
    else if c = ',' && (skipSpace tail).head? = some ']' then .error .trailingComma
    else .error .trailingCharacters

/-! ## Records -/

/-- A field of a record that is being filled. -/
structure Field (σ : Type) where
  name : String
  /-- Reads the field, and tells how it changes what has been read of the record. -/
  read : Reader (σ → σ)
  /-- Whether the field has been read. -/
  given : σ → Bool
  required : Bool

section Records

variable {σ : Type}

/-- Reads one member of an object. A field that is given twice is a fault before its
value is looked at, and an unknown member is passed over. -/
def readField (fields : List (Field σ)) (room : Nat) (state : σ) (key : List Char)
    (cs : List Char) : Step ReadError σ cs :=
  match fields.find? (fun f => f.name == String.ofList key) with
  | none =>
    match scanColon cs with
    | .error e => .error (.grammar e)
    | .ok rest =>
      match skipValue rest.1 with
      | .error e => .error (.grammar e)
      | .ok rest' => .ok (state, rest.andThen rest')
  | some field =>
    if field.given state then .error (.form (.duplicateField field.name))
    else
      match scanColon cs with
      | .error e => .error (.grammar e)
      | .ok rest =>
        match field.read room rest.1 with
        | .error e => .error e
        | .ok (change, rest') => .ok (change state, rest.andThen rest'.relax)

/-- The record if no required field is missing. -/
def complete (fields : List (Field σ)) (state : σ) : Except ReadError σ :=
  match fields.find? (fun f => f.required && !f.given state) with
  | some field => .error (.form (.missingField field.name))
  | none => .ok state

/-- What a record of so many fields is called where it is too short. -/
def lengthTitle (title : String) (length : Nat) : String :=
  title ++ " with " ++ toString length ++ (if length = 1 then " element" else " elements")

/-- Reads the fields that are left of an array, the first of them being at `index`. If
the array ends early, the fields that are left must not be required. -/
def readPositions (expected : String) (room : Nat) (fields : List (Field σ)) (index : Nat)
    (state : σ) (cs : List Char) : Step ReadError σ cs :=
  match fields with
  | [] =>
    match scanArrayEnd cs with
    | .error e => .error (.grammar e)
    | .ok rest => .ok (state, rest)
  | field :: others =>
    match nextItem (index == 0) cs with
    | .error e => .error (.grammar e)
    | .ok (.closed rest) =>
      match (field :: others).findIdx? Field.required with
      | some i => .error (.form (.invalidLength (index + i) expected))
      | none => .ok (state, rest)
    | .ok (.part start) =>
      match field.read room start.1 with
      | .error e => .error e
      | .ok (change, rest) =>
        match readPositions expected room others (index + 1) (change state) rest.1 with
        | .error e => .error e
        | .ok (final, rest') => .ok (final, start.andThen (rest.andThen rest'.relax))

/-- Reads a record with the given fields, as an object or as an array. -/
def readRecord (title : String) (fields : List (Field σ)) (blank : σ) : Reader σ :=
  fun room => atStart .grammar fun c tail =>
    if c = '{' then
      match room with
      | 0 => .error (.grammar .tooDeep)
      | room + 1 =>
        match readMembers .grammar (readField fields room) true blank tail with
        | .error e => .error e
        | .ok (state, rest) =>
          match complete fields state with
          | .error e => .error e
          | .ok state => .ok (state, rest.relax)
    else if c = '[' then
      match room with
      | 0 => .error (.grammar .tooDeep)
      | room + 1 =>
        (readPositions (lengthTitle title fields.length) room fields 0 blank tail).relax
    else .error (unexpected title c tail)

end Records

/-! ## Whole texts -/

/-- Reads a whole text, with nothing but white space after the value. -/
def readWhole {α : Type} (reader : Reader α) (text : String) : Except ReadError α :=
  match reader maxDepth text.toList with
  | .error e => .error e
  | .ok (value, ⟨rest, _⟩) =>
    if (skipSpace rest).isEmpty then .ok value else .error (.grammar .trailingCharacters)

end Draftsman.Json
