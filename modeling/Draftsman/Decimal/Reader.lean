/-
Reading decimals as people and configurations write them: digits with an optional sign,
point and exponent, and the words for what is not finite.
-/
import Draftsman.Decimal.Shortest

set_option autoImplicit false

namespace Draftsman.Decimal

/-! ## Natural numbers -/

/-- The number that digits write, if there is a digit and nothing else. -/
def digits? (cs : List Char) : Option Nat :=
  if cs.isEmpty || !cs.all Char.isDigit then none
  else some (cs.foldl (fun n c => 10 * n + (c.toNat - 48)) 0)

/-- Reads a natural number below a limit. It may have a plus sign. -/
def naturalBelow? (limit : Nat) (text : String) : Option Nat :=
  let digits := match text.toList with
    | '+' :: cs => cs
    | cs => cs
  (digits? digits).filter (· < limit)

/-! ## Binary values -/

/-- The value of a text after its sign that is a word. -/
def word? (negative : Bool) (cs : List Char) : Option Binary :=
  match String.ofList (cs.map Char.toLower) with
  | "inf" | "infinity" => some (.infinite negative)
  | "nan" => some .nan
  | _ => none

/-- The exponent that follows the digits of a decimal; zero, if nothing follows. -/
def exponent? : List Char → Option Int
  | [] => some 0
  | e :: cs =>
    if e = 'e' || e = 'E' then
      match cs with
      | '-' :: digits => (digits? digits).map fun n => -(n : Int)
      | '+' :: digits => (digits? digits).map Int.ofNat
      | digits => (digits? digits).map Int.ofNat
    else none

/-- Digits before and after a point, as one number and the power of ten that it counts.
On one side of the point there may be none. -/
def mantissa? (cs : List Char) : Option Digits :=
  let whole := cs.takeWhile Char.isDigit
  match cs.dropWhile Char.isDigit with
  | [] => (digits? whole).map fun n => ⟨n, 0⟩
  | '.' :: fraction => (digits? (whole ++ fraction)).map fun n => ⟨n, -(fraction.length : Int)⟩
  | _ => none

/-- Whether a character begins an exponent. -/
def isExponentMark (c : Char) : Bool := c == 'e' || c == 'E'

/-- The value of a text after its sign that is a decimal. A value too large for the
format is infinite. -/
def Format.unsigned? (f : Format) (negative : Bool) (cs : List Char) : Option Binary := do
  let mantissa ← mantissa? (cs.takeWhile fun c => !isExponentMark c)
  let exponent ← exponent? (cs.dropWhile fun c => !isExponentMark c)
  match f.ofDecimal? mantissa.digits (mantissa.exponent + exponent) with
  | some x => return .finite ⟨negative, x⟩
  | none => return .infinite negative

/-- Reads a value of a format, rounded to the nearest. -/
def Format.read? (f : Format) (text : String) : Option Binary :=
  let signed (negative : Bool) (cs : List Char) := (word? negative cs).or (f.unsigned? negative cs)
  match text.toList with
  | '+' :: cs => signed false cs
  | '-' :: cs => signed true cs
  | cs => signed false cs

/-! ## Writing -/

/-- Any value of a format as text, finite ones in the given layout. -/
def Layout.writeAny (layout : Layout) (f : Format) : Binary → String
  | .finite x => layout.write f x
  | .infinite negative => if negative then "-inf" else "inf"
  | .nan => "NaN"

/-- Settings are shown without exponent, integral ones without a point, and a value halfway
between two decimals as the one farther from zero. -/
def settingLayout : Layout := ⟨fun _ => true, false, .awayFromZero⟩

end Draftsman.Decimal
