/-
The shortest decimal that reads back, and how it is written.

Every value of a binary format is the nearest one to a whole interval of reals. Of the
decimals in that interval the shortest is wanted, and of several equally short ones the
nearest to the value. Decimals with a last digit worth `10 ^ k` form a grid; if any point
of a grid lies in the interval, one of the two neighbours of the value does. So it is
enough to look at those two, on coarser grids first. A value may lie halfway between its
neighbours; then whoever writes decimals has to say which of them is meant.
-/
import Draftsman.Decimal.Binary

set_option autoImplicit false

namespace Draftsman.Decimal

/-- A decimal: `digits * 10 ^ exponent`. -/
structure Digits where
  digits : Nat
  exponent : Int
deriving DecidableEq, Repr

/-- Which of two decimals stands for a value halfway between them: the one whose last digit
is even, or the one farther from zero. -/
inductive Tie where
  | toEven
  | awayFromZero
deriving DecidableEq, Repr

/-- Compares `a * 10 ^ k` with `b * 2 ^ e` without leaving the natural numbers. -/
def compareScaled (a : Nat) (k : Int) (b : Nat) (e : Int) : Ordering :=
  compare (a * Nat.pow 10 k.toNat * Nat.pow 2 (-e).toNat)
    (b * Nat.pow 2 e.toNat * Nat.pow 10 (-k).toNat)

/-- The reals that round to a value, in quarters of its last bit: from `low` to `high`
times `2 ^ exponent`, with the ends themselves if the significand is even. Below a power
of two the values are twice as dense, so the interval is shorter on that side. -/
structure Basin where
  low : Nat
  center : Nat
  high : Nat
  exponent : Int
  closed : Bool

/-- The reals that round to a magnitude of the given format. -/
def Format.basin (f : Format) (x : Magnitude) : Basin :=
  let narrow := x.significand = Nat.pow 2 (f.precision - 1) && f.minExponent < x.exponent
  { low := 4 * x.significand - (if narrow then 1 else 2)
    center := 4 * x.significand
    high := 4 * x.significand + 2
    exponent := x.exponent - 2
    closed := x.significand % 2 = 0 }

/-- Whether a decimal lies among the reals of a basin. -/
def Basin.holds (b : Basin) (d : Digits) : Bool :=
  let atLow := compareScaled d.digits d.exponent b.low b.exponent
  let atHigh := compareScaled d.digits d.exponent b.high b.exponent
  (atLow == .gt || (b.closed && atLow == .eq)) && (atHigh == .lt || (b.closed && atHigh == .eq))

/-- The greatest point of a grid that is not above the value. -/
def Basin.below (b : Basin) (k : Int) : Digits :=
  ⟨b.center * Nat.pow 2 b.exponent.toNat * Nat.pow 10 (-k).toNat /
    (Nat.pow 10 k.toNat * Nat.pow 2 (-b.exponent).toNat), k⟩

/-- Whether the upper one of two neighbouring decimals stands for a value halfway between
them. -/
def Tie.prefersUpper (tie : Tie) (lower : Digits) : Bool :=
  match tie with
  | toEven => lower.digits % 2 = 1
  | awayFromZero => true

/-- The shorter way from the value to a grid: whether the upper neighbour is nearer than
the lower one, or equally near and preferred. -/
def Basin.prefersUpper (b : Basin) (tie : Tie) (lower : Digits) : Bool :=
  match compareScaled (2 * lower.digits + 1) lower.exponent (2 * b.center) b.exponent with
  | .lt => true
  | .gt => false
  | .eq => tie.prefersUpper lower

/-- The point of one grid that stands for the value, if the grid is fine enough. -/
def Basin.onGrid? (b : Basin) (tie : Tie) (k : Int) : Option Digits :=
  let lower := b.below k
  let upper : Digits := ⟨lower.digits + 1, k⟩
  match b.holds lower, b.holds upper with
  | true, true => some (if b.prefersUpper tie lower then upper else lower)
  | true, false => some lower
  | false, true => some upper
  | false, false => none

/-- The point of the first fine enough grid, from the grid `10 ^ k` on. Each step adds a
digit, and no value needs more digits than its format has bits. -/
def Basin.search (b : Basin) (tie : Tie) (k : Int) : Nat → Digits
  | 0 => b.below k
  | steps + 1 =>
    match b.onGrid? tie k with
    | some d => d
    | none => b.search tie (k - 1) steps

/-- The shortest decimal that reads back as the given magnitude. The first grid tried is
coarser than the value, by an estimate of its decimal logarithm. -/
def Format.shortest (f : Format) (tie : Tie) (x : Magnitude) : Digits :=
  if x.significand = 0 then ⟨0, 0⟩
  else
    let size := (x.significand.log2 : Int) + x.exponent + 1
    (f.basin x).search tie (Int.fdiv (size * 30103) 100000 + 1) f.precision

/-! ## Writing a decimal

The decisions that a format of output makes are parameters of the writer. -/

/-- How decimals are written. -/
structure Layout where
  /-- Whether a value whose first digit is worth `10 ^ x` is written without exponent. -/
  positional : Int → Bool
  /-- Whether an integral value without exponent ends in `.0`. -/
  marksIntegral : Bool
  /-- Which of two equally short and equally near decimals is written. -/
  tie : Tie

/-- The digits of a decimal, from the first one. -/
def Digits.toChars (d : Digits) : List Char := Nat.toDigits 10 d.digits

/-- The power of ten that the first digit counts. -/
def Digits.leading (d : Digits) : Int := d.exponent + d.toChars.length - 1

/-- A decimal without exponent. -/
def Layout.writePositional (layout : Layout) (d : Digits) : List Char :=
  let ds := d.toChars
  if 0 ≤ d.exponent then
    ds ++ List.replicate d.exponent.toNat '0' ++ (if layout.marksIntegral then ['.', '0'] else [])
  else if 0 ≤ d.leading then
    let whole := ds.length - (-d.exponent).toNat
    ds.take whole ++ '.' :: ds.drop whole
  else ['0', '.'] ++ List.replicate (-d.leading - 1).toNat '0' ++ ds

/-- A decimal with exponent: one digit before the point, and a sign on every exponent. -/
def writeScientific (d : Digits) : List Char :=
  let fraction := match d.toChars.drop 1 with
    | [] => []
    | more => '.' :: more
  let sign := if d.leading < 0 then '-' else '+'
  d.toChars.take 1 ++ fraction ++ 'e' :: sign :: Nat.toDigits 10 d.leading.natAbs

/-- The text of a finite value of a format. -/
def Layout.write (layout : Layout) (f : Format) (x : Finite) : String :=
  let d := f.shortest layout.tie x.magnitude
  let body := if layout.positional d.leading then layout.writePositional d else writeScientific d
  String.ofList (if x.negative then '-' :: body else body)

end Draftsman.Decimal
