/-
The smallest readers of JSON text: white space, keywords, string literals and numbers.

A reader takes the text that is left and returns what it read together with the text
after it, and with the fact that this text is shorter. The fact is what every loop built
from readers needs in order to end.
-/
import Draftsman.Json.Error

set_option autoImplicit false

namespace Draftsman.Json

/-! ## Readers -/

/-- A text shorter than the given one. -/
abbrev Shorter (cs : List Char) := { rest : List Char // rest.length < cs.length }

/-- A text not longer than the given one. -/
abbrev NoLonger (cs : List Char) := { rest : List Char // rest.length ≤ cs.length }

/-- What a reader returns: a value and the shorter text after it, or a fault. -/
abbrev Step (ε α : Type) (cs : List Char) := Except ε (α × Shorter cs)

/-- The text after its first character. -/
def Shorter.tail (x : Char) (cs : List Char) : Shorter (x :: cs) := ⟨cs, Nat.lt_succ_self _⟩

/-- The same shorter text seen from before another character. -/
def Shorter.cons (x : Char) {cs : List Char} (rest : Shorter cs) : Shorter (x :: cs) :=
  ⟨rest.1, Nat.lt_succ_of_lt rest.2⟩

/-- A shorter text as one that is not longer. -/
def Shorter.relax {cs : List Char} (rest : Shorter cs) : NoLonger cs :=
  ⟨rest.1, Nat.le_of_lt rest.2⟩

/-- A text shorter than one with another character in front. -/
def Shorter.uncons {x : Char} {cs : List Char} (rest : Shorter (x :: cs)) : NoLonger cs :=
  ⟨rest.1, Nat.le_of_lt_succ rest.2⟩

/-- What a second reader, which may stop where it started, leaves of the text that a first one
has left. -/
def Shorter.andThen {cs : List Char} (rest : Shorter cs) (more : NoLonger rest.1) : Shorter cs :=
  ⟨more.1, Nat.lt_of_le_of_lt more.2 rest.2⟩

/-- What a second reader leaves of the text that a first one, which may stop where it started,
has left. -/
def NoLonger.andThen {cs : List Char} (rest : NoLonger cs) (more : Shorter rest.1) : Shorter cs :=
  ⟨more.1, Nat.lt_of_lt_of_le more.2 rest.2⟩

/-- The text itself. -/
def NoLonger.whole (cs : List Char) : NoLonger cs := ⟨cs, Nat.le_refl _⟩

/-! ## White space -/

/-- The four characters that count as white space between the parts of a JSON text. -/
def isSpace (c : Char) : Bool := c == ' ' || c == '\n' || c == '\t' || c == '\r'

/-- The text without the white space at its start. -/
def skipSpace (cs : List Char) : List Char := cs.dropWhile isSpace

theorem length_skipSpace_le (cs : List Char) : (skipSpace cs).length ≤ cs.length :=
  (List.dropWhile_suffix isSpace).length_le

/-! ## Keywords -/

/-- Reads the given letters: the rest of a keyword whose first letter has been read. -/
def scanKeyword (letters : List Char) (cs : List Char) : Except SyntaxError (NoLonger cs) :=
  match letters, cs with
  | [], cs => .ok (.whole cs)
  | _ :: _, [] => .error .endInValue
  | l :: letters, c :: cs =>
    if l = c then
      match scanKeyword letters cs with
      | .error e => .error e
      | .ok ⟨rest, h⟩ => .ok ⟨rest, Nat.le_succ_of_le h⟩
    else .error .expectedKeyword

/-! ## String literals -/

/-- The value of a hexadecimal digit. -/
def hexValue? (c : Char) : Option Nat :=
  let n := c.toNat
  if 48 ≤ n && n ≤ 57 then some (n - 48)
  else if 97 ≤ n && n ≤ 102 then some (n - 87)
  else if 65 ≤ n && n ≤ 70 then some (n - 55)
  else none

/-- The value of four hexadecimal digits. -/
def hexValue4? (a b c d : Char) : Option Nat := do
  let a ← hexValue? a
  let b ← hexValue? b
  let c ← hexValue? c
  let d ← hexValue? d
  return ((a * 16 + b) * 16 + c) * 16 + d

/-- Reads four hexadecimal digits. A text of fewer than four bytes ends too early; one of
at least four bytes that does not begin with four digits is wrong. -/
def scanHex (cs : List Char) : Step SyntaxError Nat cs :=
  match cs with
  | a :: b :: c :: d :: rest =>
    match hexValue4? a b c d with
    | some n => .ok (n, (((Shorter.tail d rest).cons c).cons b).cons a)
    | none => .error .invalidEscape
  | short =>
    if (short.map Char.utf8Size).foldl Nat.add 0 < 4 then .error .endInString
    else .error .invalidEscape

/-- The first half of a character beyond the first plane. -/
def isLeadingSurrogate (n : Nat) : Bool := 0xD800 ≤ n && n ≤ 0xDBFF

/-- The second half of a character beyond the first plane. -/
def isTrailingSurrogate (n : Nat) : Bool := 0xDC00 ≤ n && n ≤ 0xDFFF

/-- Reads a character given by its code, after the letter that says so: four digits, or
two such codes for a character beyond the first plane. -/
def scanCode (cs : List Char) : Step SyntaxError Char cs :=
  match scanHex cs with
  | .error e => .error e
  | .ok (n, ⟨rest, h⟩) =>
    if isTrailingSurrogate n then .error .loneSurrogate
    else if !isLeadingSurrogate n then .ok (Char.ofNat n, ⟨rest, h⟩)
    else match rest, h with
      | [], _ => .error .endInString
      -- a first half stands for nothing without the second
      | '\\' :: 'u' :: more, h =>
        match scanHex more with
        | .error e => .error e
        | .ok (m, ⟨rest', h'⟩) =>
          if isTrailingSurrogate m then
            .ok (Char.ofNat ((n - 0xD800) * 0x400 + (m - 0xDC00) + 0x10000),
              ⟨rest', by simp only [List.length_cons] at h; omega⟩)
          else .error .loneSurrogate
      | ['\\'], _ => .error .endInString
      | _ :: _, _ => .error .halfSurrogatePair

/-- The character that a one-letter escape stands for. -/
def escapedChar? : Char → Option Char
  | '"' => some '"'
  | '\\' => some '\\'
  | '/' => some '/'
  | 'b' => some '\x08'
  | 'f' => some '\x0c'
  | 'n' => some '\n'
  | 'r' => some '\r'
  | 't' => some '\t'
  | _ => none

/-- Reads an escape after its backslash. -/
def scanEscape (cs : List Char) : Step SyntaxError Char cs :=
  match cs with
  | [] => .error .endInString
  | c :: rest =>
    if c = 'u' then
      match scanCode rest with
      | .error e => .error e
      | .ok (x, more) => .ok (x, more.cons c)
    else match escapedChar? c with
      | some x => .ok (x, .tail c rest)
      | none => .error .invalidEscape

/-- Reads a string literal after its opening quote. -/
def scanString (cs : List Char) : Step SyntaxError (List Char) cs :=
  match cs with
  | [] => .error .endInString
  | c :: tail =>
    if c = '"' then .ok ([], .tail c tail)
    else if c = '\\' then
      match scanEscape tail with
      | .error e => .error e
      | .ok (x, ⟨rest, h⟩) =>
        match scanString rest with
        | .error e => .error e
        | .ok (text, rest') =>
          .ok (x :: text, (Shorter.andThen ⟨rest, h⟩ rest'.relax).cons c)
    else if c.toNat < 0x20 then .error .controlCharacter
    else
      match scanString tail with
      | .error e => .error e
      | .ok (text, rest') => .ok (c :: text, rest'.cons c)
termination_by cs.length
decreasing_by
  · simp only [List.length_cons]; omega
  · simp only [List.length_cons]; omega

end Draftsman.Json
