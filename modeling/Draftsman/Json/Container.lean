/-
The frame of JSON containers: what stands between the items of an array and the members
of an object.

The loops here know nothing of what an item or a member is; they are given a reader for
it. A reader that keeps values makes a parser of them, and a reader that fills the fields
of a record makes a decoder that stops at the first fault in reading order, of whichever
kind it is.
-/
import Draftsman.Json.Scan

set_option autoImplicit false

namespace Draftsman.Json

/-! ## The next part of a container -/

/-- What comes next in a container: its end, or another part that starts at `rest`. -/
inductive Next (cs : List Char) where
  | closed (rest : Shorter cs)
  | part (rest : NoLonger cs)

/-- The start of a text without its white space, as a text not longer than the whole. -/
theorem length_tail_skipSpace_lt {cs : List Char} {c : Char} {tail : List Char}
    (h : skipSpace cs = c :: tail) : tail.length < cs.length := by
  have := length_skipSpace_le cs
  rw [h] at this
  exact this

/-- What comes next in an array, at its beginning or after an item. -/
def nextItem (first : Bool) (cs : List Char) : Except SyntaxError (Next cs) :=
  match h : skipSpace cs with
  | [] => .error .endInArray
  | c :: tail =>
    have ht : tail.length < cs.length := length_tail_skipSpace_lt h
    if c = ']' then .ok (.closed ⟨tail, ht⟩)
    -- any other character is for the reader of items to refuse
    else if first then .ok (.part ⟨c :: tail, h ▸ length_skipSpace_le cs⟩)
    else if c = ',' then
      match h' : skipSpace tail with
      | [] => .error .endInValue
      | d :: more =>
        if d = ']' then .error .trailingComma
        else .ok (.part ⟨d :: more, by have := h' ▸ length_skipSpace_le tail; omega⟩)
    else .error .expectedItemEnd

/-- What comes next in an object, at its beginning or after a member; a part starts after
the opening quote of its key. -/
def nextMember (first : Bool) (cs : List Char) : Except SyntaxError (Next cs) :=
  match h : skipSpace cs with
  | [] => .error .endInObject
  | c :: tail =>
    have ht : tail.length < cs.length := length_tail_skipSpace_lt h
    if c = '}' then .ok (.closed ⟨tail, ht⟩)
    else if first then
      if c = '"' then .ok (.part ⟨tail, Nat.le_of_lt ht⟩) else .error .keyNotString
    else if c = ',' then
      match h' : skipSpace tail with
      | [] => .error .endInValue
      | d :: more =>
        if d = '"' then
          .ok (.part ⟨more, by have := length_tail_skipSpace_lt h'; omega⟩)
        else if d = '}' then .error .trailingComma
        else .error .keyNotString
    else .error .expectedMemberEnd

/-- Reads the colon between a key and its value. -/
def scanColon (cs : List Char) : Except SyntaxError (Shorter cs) :=
  match h : skipSpace cs with
  | [] => .error .endInObject
  | c :: tail =>
    if c = ':' then .ok ⟨tail, length_tail_skipSpace_lt h⟩ else .error .expectedColon

/-! ## Whole containers -/

section Loops

variable {ε α σ : Type} (fault : SyntaxError → ε)

/-- Reads the items of an array up to its end, after the opening bracket or after an
item. -/
def readItems (item : (cs : List Char) → Step ε α cs) (first : Bool) (cs : List Char) :
    Step ε (List α) cs :=
  match nextItem first cs with
  | .error e => .error (fault e)
  | .ok (.closed rest) => .ok ([], rest)
  | .ok (.part ⟨start, h⟩) =>
    match item start with
    | .error e => .error e
    | .ok (value, ⟨rest, h'⟩) =>
      match readItems item false rest with
      | .error e => .error e
      | .ok (values, rest') =>
        .ok (value :: values, NoLonger.andThen ⟨start, h⟩ (Shorter.andThen ⟨rest, h'⟩ rest'.relax))
termination_by cs.length

/-- Reads the members of an object up to its end, after the opening brace or after a
member. The reader of a member is given what has been read so far and the key, and starts
where the key ends. -/
def readMembers (member : σ → List Char → (cs : List Char) → Step ε σ cs)
    (first : Bool) (state : σ) (cs : List Char) : Step ε σ cs :=
  match nextMember first cs with
  | .error e => .error (fault e)
  | .ok (.closed rest) => .ok (state, rest)
  | .ok (.part ⟨start, h⟩) =>
    match scanString start with
    | .error e => .error (fault e)
    | .ok (key, ⟨afterKey, h'⟩) =>
      match member state key afterKey with
      | .error e => .error e
      | .ok (next, ⟨rest, h''⟩) =>
        match readMembers member false next rest with
        | .error e => .error e
        | .ok (final, rest') =>
          .ok (final, NoLonger.andThen ⟨start, h⟩
            (Shorter.andThen ⟨afterKey, h'⟩ (Shorter.andThen ⟨rest, h''⟩ rest'.relax).relax))
termination_by cs.length

end Loops

/-! ## The start of a value -/

/-- Reads a value by its first character, which is given to `read` together with the text
after it. -/
def atStart {ε α : Type} (fault : SyntaxError → ε)
    (read : Char → (tail : List Char) → Except ε (α × NoLonger tail)) (cs : List Char) :
    Step ε α cs :=
  match h : skipSpace cs with
  | [] => .error (fault .endInValue)
  | c :: tail =>
    match read c tail with
    | .error e => .error e
    | .ok (value, rest) =>
      .ok (value, Shorter.andThen ⟨tail, length_tail_skipSpace_lt h⟩ rest)

/-- What a reader returned, as the result of a reader that is allowed to stop where it
started. -/
def Step.relax {ε α : Type} {cs : List Char} : Step ε α cs → Except ε (α × NoLonger cs)
  | .error e => .error e
  | .ok (value, rest) => .ok (value, Shorter.relax rest)

end Draftsman.Json
