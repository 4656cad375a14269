/-
Skipping values that nobody wants.

A decoder passes over unknown members without building their values. This is more lenient
than parsing: nesting is not limited, numbers are not valued, escapes of half characters
are let through, and an item may be missing only where a value is looked for. The open
containers are kept as a list, so one loop goes through all of them.
-/
import Draftsman.Json.Container
import Draftsman.Json.Numeral

set_option autoImplicit false

namespace Draftsman.Json

/-! ## Scalars -/

/-- Skips an escape after its backslash. -/
def skipEscape (cs : List Char) : Except SyntaxError (Shorter cs) :=
  match cs with
  | [] => .error .endInString
  | c :: rest =>
    if c = 'u' then
      match scanHex rest with
      | .error e => .error e
      | .ok (_, more) => .ok (more.cons c)
    else if (escapedChar? c).isSome then .ok (.tail c rest)
    else .error .invalidEscape

/-- Skips a string literal after its opening quote. -/
def skipString (cs : List Char) : Except SyntaxError (Shorter cs) :=
  match cs with
  | [] => .error .endInString
  | c :: tail =>
    if c = '"' then .ok (.tail c tail)
    else if c = '\\' then
      match skipEscape tail with
      | .error e => .error e
      | .ok ⟨rest, h⟩ =>
        match skipString rest with
        | .error e => .error e
        | .ok rest' => .ok ((Shorter.andThen ⟨rest, h⟩ rest'.relax).cons c)
    else if c.toNat < 0x20 then .error .controlCharacter
    else
      match skipString tail with
      | .error e => .error e
      | .ok rest' => .ok (rest'.cons c)
termination_by cs.length
decreasing_by
  · simp only [List.length_cons]; omega
  · simp only [List.length_cons]; omega

/-- Skips digits, of which there must be one. -/
def skipDigits (cs : List Char) : Except SyntaxError (Shorter cs) :=
  match cs with
  | [] => .error .invalidNumber
  | c :: tail =>
    if c.isDigit then
      .ok ⟨tail.dropWhile Char.isDigit, length_dropDigits_lt c tail⟩
    else .error .invalidNumber

/-- Skips an exponent, if one is there. -/
def skipExponent (cs : List Char) : Except SyntaxError (NoLonger cs) :=
  match cs with
  | [] => .ok (.whole [])
  | c :: tail =>
    if c = 'e' || c = 'E' then
      match dropSign tail with
      | (_, unsigned) =>
        match skipDigits unsigned.1 with
        | .error e => .error e
        | .ok rest => .ok ((unsigned.andThen rest).cons c).relax
    else .ok (.whole (c :: tail))

/-- Skips a point and the digits after it, if a point is there. -/
def skipFraction (cs : List Char) : Except SyntaxError (NoLonger cs) :=
  match cs with
  | '.' :: tail =>
    match skipDigits tail with
    | .error e => .error e
    | .ok rest => .ok (rest.cons '.').relax
  | cs => .ok (.whole cs)

/-- Skips a number after its sign. A zero stands alone. -/
def skipNumber (cs : List Char) : Except SyntaxError (Shorter cs) :=
  let whole : Except SyntaxError (Shorter cs) := match cs with
    | '0' :: tail =>
      if tail.head?.any Char.isDigit then .error .invalidNumber else .ok (.tail '0' tail)
    | cs => skipDigits cs
  match whole with
  | .error e => .error e
  | .ok rest =>
    match skipFraction rest.1 with
    | .error e => .error e
    | .ok rest' =>
      match skipExponent rest'.1 with
      | .error e => .error e
      | .ok rest'' => .ok ((rest.andThen rest').andThen rest'')

/-! ## Containers -/

/-- The two kinds of container. -/
inductive Bracket where
  | array
  | object
deriving DecidableEq, Repr

/-- Skips a key and its colon, up to the value. -/
def skipKey (cs : List Char) : Except SyntaxError (Shorter cs) :=
  match h : skipSpace cs with
  | [] => .error .endInObject
  | c :: tail =>
    have ht : tail.length < cs.length := length_tail_skipSpace_lt h
    if c = '"' then
      match skipString tail with
      | .error e => .error e
      | .ok rest =>
        match scanColon rest.1 with
        | .error e => .error e
        | .ok rest' => .ok (Shorter.andThen ⟨tail, ht⟩ (rest.andThen rest'.relax).relax)
    else .error .keyNotString

/-- Goes to the next value of a container: past the key, if it is an object. -/
def toNextValue (bracket : Bracket) (cs : List Char) : Except SyntaxError (NoLonger cs) :=
  match bracket with
  | .array => .ok (.whole cs)
  | .object =>
    match skipKey cs with
    | .error e => .error e
    | .ok rest => .ok rest.relax

/-- The character that closes a container. -/
def Bracket.closing : Bracket → Char
  | array => ']'
  | object => '}'

/-- The fault of a text that ends inside a container. -/
def Bracket.unclosed : Bracket → SyntaxError
  | array => .endInArray
  | object => .endInObject

/-- The fault of a text in which neither a comma nor the end follows a part. -/
def Bracket.unseparated : Bracket → SyntaxError
  | array => .expectedItemEnd
  | object => .expectedMemberEnd

/-- Skips a scalar after its first character, or says which container the character
opens. -/
def skipScalar (c : Char) (tail : List Char) :
    Except SyntaxError (Option Bracket × NoLonger tail) :=
  let done (r : Except SyntaxError (NoLonger tail)) :
      Except SyntaxError (Option Bracket × NoLonger tail) := r.map fun rest => (none, rest)
  let relax (r : Except SyntaxError (Shorter tail)) : Except SyntaxError (NoLonger tail) :=
    r.map Shorter.relax
  if c = 'n' then done (scanKeyword "ull".toList tail)
  else if c = 't' then done (scanKeyword "rue".toList tail)
  else if c = 'f' then done (scanKeyword "alse".toList tail)
  else if c = '-' then done (relax (skipNumber tail))
  else if c.isDigit then
    match skipNumber (c :: tail) with
    | .error e => .error e
    | .ok rest => .ok (none, rest.uncons)
  else if c = '"' then done (relax (skipString tail))
  else if c = '[' then .ok (some .array, .whole tail)
  else if c = '{' then .ok (some .object, .whole tail)
  else .error .expectedValue

/-! ### All open containers

Two loops call each other: one starts with a value, the other with what follows one. Only
the first is sure to take a character off before it calls the other, so the other counts
for one more. -/

theorem double_length_lt {a b : List Char} (h : b.length < a.length) :
    2 * b.length + 1 < 2 * a.length := by omega

theorem double_length_le {a b : List Char} (h : b.length ≤ a.length) :
    2 * b.length < 2 * a.length + 1 := by omega

theorem double_length_lt_succ {a b : List Char} (h : b.length < a.length) :
    2 * b.length + 1 < 2 * a.length + 1 := by omega

mutual

/-- Skips a value, and what is left of the containers that are open around it, the
innermost first. -/
def skipFrom (opened : List Bracket) (cs : List Char) : Except SyntaxError (NoLonger cs) :=
  match h : skipSpace cs with
  | [] => .error .endInValue
  | c :: tail =>
    match skipScalar c tail with
    | .error e => .error e
    | .ok (opening, ⟨rest, h'⟩) =>
      have ht : tail.length < cs.length := length_tail_skipSpace_lt h
      have hlt : rest.length < cs.length := Nat.lt_of_le_of_lt h' ht
      match skipAfter opening.isSome (opening.toList ++ opened) rest with
      | .error e => .error e
      | .ok rest' => .ok (Shorter.andThen ⟨rest, hlt⟩ rest').relax
termination_by 2 * cs.length
decreasing_by exact double_length_lt hlt

/-- Skips what is left of the open containers, from the beginning of the innermost one
or from the end of a value in it. -/
def skipAfter (first : Bool) (opened : List Bracket) (cs : List Char) :
    Except SyntaxError (NoLonger cs) :=
  match opened with
  | [] => .ok (.whole cs)
  | bracket :: outer =>
    match h : skipSpace cs with
    | [] => .error bracket.unclosed
    | c :: tail =>
      have ht : tail.length < cs.length := length_tail_skipSpace_lt h
      if c = bracket.closing then
        match skipAfter false outer tail with
        | .error e => .error e
        | .ok rest' => .ok (Shorter.andThen ⟨tail, ht⟩ rest').relax
      else if first then
        -- `c` belongs to the value or to its key
        match toNextValue bracket cs with
        | .error e => .error e
        | .ok ⟨rest, h'⟩ =>
          match skipFrom (bracket :: outer) rest with
          | .error e => .error e
          | .ok ⟨rest', h''⟩ => .ok ⟨rest', Nat.le_trans h'' h'⟩
      else if c = ',' then
        match toNextValue bracket tail with
        | .error e => .error e
        | .ok ⟨rest, h'⟩ =>
          have hle : rest.length ≤ cs.length := Nat.le_of_lt (Nat.lt_of_le_of_lt h' ht)
          match skipFrom (bracket :: outer) rest with
          | .error e => .error e
          | .ok ⟨rest', h''⟩ => .ok ⟨rest', Nat.le_trans h'' hle⟩
      else .error bracket.unseparated
termination_by 2 * cs.length + 1
decreasing_by
  · exact double_length_lt_succ ht
  · exact double_length_le h'
  · exact double_length_le hle

end

/-- Skips a value. -/
def skipValue (cs : List Char) : Except SyntaxError (NoLonger cs) := skipFrom [] cs

end Draftsman.Json
