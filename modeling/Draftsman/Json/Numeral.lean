/-
Numbers in JSON texts.

A number is scanned first, which only asks for its form, and valued afterwards. An
integer of at most 64 bits is exact. Any other number is valued in a few roundings: its
first digits, as many as fit 64 bits, are rounded to a binary value, and this is
multiplied or divided by a rounded power of ten. The result can differ in its last bit
from the binary value nearest to the number.
-/
import Draftsman.Json.Scan

set_option autoImplicit false

namespace Draftsman.Json

open Draftsman.Decimal

/-! ## The form -/

/-- The parts of a number as written. -/
structure Numeral where
  negative : Bool
  whole : List Char
  fraction : List Char
  exponent : Option (Bool × List Char)
deriving DecidableEq, Repr

theorem length_dropDigits_lt (c : Char) (tail : List Char) :
    (tail.dropWhile Char.isDigit).length < (c :: tail).length :=
  Nat.lt_succ_of_le (List.dropWhile_suffix Char.isDigit).length_le

/-- Reads the digits at the start of a text, of which there must be one. -/
def scanDigits (cs : List Char) : Step SyntaxError (List Char) cs :=
  match cs with
  | [] => .error .endInValue
  | c :: tail =>
    if c.isDigit then
      .ok (c :: tail.takeWhile Char.isDigit,
        ⟨tail.dropWhile Char.isDigit, length_dropDigits_lt c tail⟩)
    else .error .invalidNumber

/-- Reads the digits before the point. A zero stands alone. -/
def scanWhole (cs : List Char) : Step SyntaxError (List Char) cs :=
  match cs with
  | '0' :: tail =>
    if tail.head?.any Char.isDigit then .error .invalidNumber
    else .ok (['0'], .tail '0' tail)
  | cs => scanDigits cs

/-- Reads a point and the digits after it, if a point is there. -/
def scanFraction (cs : List Char) : Except SyntaxError (List Char × NoLonger cs) :=
  match cs with
  | '.' :: tail =>
    match scanDigits tail with
    | .error e => .error e
    | .ok (digits, rest) => .ok (digits, (rest.cons '.').relax)
  | cs => .ok ([], .whole cs)

/-- The text after the sign of an exponent, and whether the sign is negative. -/
def dropSign (cs : List Char) : Bool × NoLonger cs :=
  match cs with
  | '+' :: tail => (false, (Shorter.tail '+' tail).relax)
  | '-' :: tail => (true, (Shorter.tail '-' tail).relax)
  | cs => (false, .whole cs)

/-- Reads an exponent, if one is there. -/
def scanExponent (cs : List Char) :
    Except SyntaxError (Option (Bool × List Char) × NoLonger cs) :=
  match cs with
  | [] => .ok (none, .whole [])
  | c :: tail =>
    if c = 'e' || c = 'E' then
      match dropSign tail with
      | (negative, unsigned) =>
        match scanDigits unsigned.1 with
        | .error e => .error e
        | .ok (digits, rest) =>
          .ok (some (negative, digits), ((unsigned.andThen rest).cons c).relax)
    else .ok (none, .whole (c :: tail))

/-- Reads a number after its sign. -/
def scanUnsigned (negative : Bool) (cs : List Char) : Step SyntaxError Numeral cs :=
  match scanWhole cs with
  | .error e => .error e
  | .ok (whole, rest) =>
    match scanFraction rest.1 with
    | .error e => .error e
    | .ok (fraction, rest') =>
      match scanExponent rest'.1 with
      | .error e => .error e
      | .ok (exponent, rest'') =>
        .ok (⟨negative, whole, fraction, exponent⟩, (rest.andThen rest').andThen rest'')

/-! ## The value -/

/-- The value of a digit. -/
def digitValue (c : Char) : Nat := c.toNat - 48

/-- The number that digits write. -/
def digitsValue (digits : List Char) : Nat :=
  digits.foldl (fun n c => 10 * n + digitValue c) 0

/-- The least number that does not fit 64 bits. -/
def wordLimit : Nat := 0x10000000000000000

/-- The leading digits of a number as far as they fit 64 bits, and the power of ten that
the digits left out make up. -/
structure Leading where
  value : Nat
  exponent : Int

/-- Takes digits before the point while the number that they write fits 64 bits. Once
one does not fit, it and all others after it only count. -/
def Leading.ofWhole (value : Nat) : List Char → Leading
  | [] => ⟨value, 0⟩
  | c :: rest =>
    let next := 10 * value + digitValue c
    if next < wordLimit then ofWhole next rest else ⟨value, rest.length + 1⟩

/-- Takes digits after the point in the same way; the ones left out do not count. -/
def Leading.addFraction (l : Leading) : List Char → Leading
  | [] => l
  | c :: rest =>
    let next := 10 * l.value + digitValue c
    if next < wordLimit then addFraction ⟨next, l.exponent - 1⟩ rest else l

/-- The largest power of ten that one multiplication or division handles. -/
def powerStep : Nat := 308

/-- Divides by a power of ten, in steps. A value that has become zero stays zero. -/
def divideByPower (x : Magnitude) (power : Nat) : Option Magnitude :=
  if h : power ≤ powerStep then
    (Format.double.ofNat? (Nat.pow 10 power)).bind (Magnitude.div? .double x)
  else if x.significand = 0 then some x
  else
    have hless : power - powerStep < power :=
      Nat.sub_lt (Nat.zero_lt_of_lt (Nat.lt_of_not_le h)) (by decide)
    (Format.double.ofNat? (Nat.pow 10 powerStep)).bind fun p =>
      (Magnitude.div? .double x p).bind fun y => divideByPower y (power - powerStep)
termination_by power
decreasing_by exact hless

/-- The value of leading digits times a power of ten; none if it is too large. -/
def scaledValue? (digits : Nat) (exponent : Int) : Option Magnitude :=
  (Format.double.ofNat? digits).bind fun x =>
    if exponent < 0 then divideByPower x exponent.natAbs
    -- zero is not too large, whatever the power
    else if x.significand = 0 then some x
    else if exponent ≤ powerStep then
      (Format.double.ofNat? (Nat.pow 10 exponent.toNat)).bind (Magnitude.mul? .double x)
    else none

/-- The exponent of a numeral as a number. -/
def Numeral.exponentValue (n : Numeral) : Int :=
  match n.exponent with
  | none => 0
  | some (negative, digits) =>
    if negative then -(digitsValue digits : Int) else (digitsValue digits : Int)

/-- The number that a numeral writes. The negative zero is no integer, and neither is a
number below the range of 64 bits with a sign. -/
def Numeral.value (n : Numeral) : Except SyntaxError Number :=
  let whole := Leading.ofWhole 0 n.whole
  let isInteger := n.fraction.isEmpty && n.exponent.isNone && whole.exponent == 0
  -- `whole.exponent` is zero only if no digit was left out
  if isInteger && !n.negative then .ok (.integer whole.value)
  else if isInteger && 0 < whole.value && whole.value ≤ 0x8000000000000000 then
    .ok (.integer (-(whole.value : Int)))
  else
    let leading := whole.addFraction n.fraction
    match scaledValue? leading.value (leading.exponent + n.exponentValue) with
    | some x => .ok (.real ⟨n.negative, x⟩)
    | none => .error .numberOutOfRange

/-- Reads a number after its sign, and values it. -/
def scanNumber (negative : Bool) (cs : List Char) : Step SyntaxError Number cs :=
  match scanUnsigned negative cs with
  | .error e => .error e
  | .ok (numeral, rest) =>
    match numeral.value with
    | .error e => .error e
    | .ok n => .ok (n, rest)

end Draftsman.Json
