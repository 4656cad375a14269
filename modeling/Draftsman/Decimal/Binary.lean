/-
Binary floating-point values, computed exactly.

A finite value is a natural number times a power of two. All arithmetic is done on exact
ratios of natural numbers and rounded once at the end, to the nearest value and to the
even one of two equally near; so each operation here gives the value that a processor
gives, by a definition that proofs can look into.
-/

set_option autoImplicit false

namespace Draftsman.Decimal

/-! ## Formats and values -/

/-- A binary format: how many bits a significand has, and which powers of two it may be
multiplied by. -/
structure Format where
  precision : Nat
  minExponent : Int
  maxExponent : Int

/-- The format of 64 bits. -/
def Format.double : Format := ⟨53, -1074, 971⟩

/-- The format of 32 bits. -/
def Format.single : Format := ⟨24, -149, 104⟩

/-- A value without sign: `significand * 2 ^ exponent`. The functions of this module give
the significand as many bits as the format has, or fewer at the least exponent. -/
structure Magnitude where
  significand : Nat
  exponent : Int
deriving DecidableEq, Repr

/-- A finite value. Zero has a sign too. -/
structure Finite where
  negative : Bool
  magnitude : Magnitude
deriving DecidableEq, Repr

/-- Any value of a binary format. -/
inductive Binary where
  | finite (value : Finite)
  | infinite (negative : Bool)
  | nan
deriving DecidableEq, Repr

/-! ## Rounding -/

/-- The nearest natural number to a ratio, and the even one of two equally near. -/
def roundHalfEven (num den : Nat) : Nat :=
  let quotient := num / den
  let rest := num % den
  if 2 * rest < den then quotient
  else if den < 2 * rest then quotient + 1
  else quotient + quotient % 2

/-- A ratio divided by a power of two. -/
def scaleDown (num den : Nat) (exponent : Int) : Nat × Nat :=
  (num * Nat.pow 2 (-exponent).toNat, den * Nat.pow 2 exponent.toNat)

/-- The value of a format nearest to a ratio; none if the ratio is too large. The
exponent is chosen so that the significand uses all bits of the format, unless the least
exponent forbids it: the difference of the logarithms misses the right one by at most
one. -/
def Format.round? (f : Format) (num den : Nat) : Option Magnitude :=
  if num = 0 then some ⟨0, f.minExponent⟩
  else
    let guess := max f.minExponent ((num.log2 : Int) - den.log2 - f.precision)
    let (n₀, d₀) := scaleDown num den guess
    let exponent := if n₀ / d₀ < Nat.pow 2 f.precision then guess else guess + 1
    let (n, d) := scaleDown num den exponent
    let m := roundHalfEven n d
    let rounded : Magnitude :=
      if m = Nat.pow 2 f.precision then ⟨m / 2, exponent + 1⟩ else ⟨m, exponent⟩
    if f.maxExponent < rounded.exponent then none else some rounded

/-! ## Arithmetic -/

namespace Magnitude

/-- The numerator of a magnitude as a ratio. -/
def num (x : Magnitude) : Nat := x.significand * Nat.pow 2 x.exponent.toNat

/-- The denominator of a magnitude as a ratio. -/
def den (x : Magnitude) : Nat := Nat.pow 2 (-x.exponent).toNat

/-- The product, rounded; none if it is too large. -/
def mul? (f : Format) (x y : Magnitude) : Option Magnitude :=
  f.round? (x.num * y.num) (x.den * y.den)

/-- The quotient, rounded; none if it is too large. -/
def div? (f : Format) (x y : Magnitude) : Option Magnitude :=
  f.round? (x.num * y.den) (x.den * y.num)

end Magnitude

/-- The value nearest to a natural number. -/
def Format.ofNat? (f : Format) (n : Nat) : Option Magnitude := f.round? n 1

/-- The value nearest to `digits * 10 ^ exponent`. An exponent beyond the reach of the
format is answered at once, so that no huge power of ten is ever computed: a magnitude
has fewer than 400 digits before the point, and is zero when more than 400 digits follow
the point before the first that counts. -/
def Format.ofDecimal? (f : Format) (digits : Nat) (exponent : Int) : Option Magnitude :=
  if digits = 0 then some ⟨0, f.minExponent⟩
  else if 400 < exponent then none
  else if exponent + (Nat.toDigits 10 digits).length < -400 then some ⟨0, f.minExponent⟩
  else f.round? (digits * Nat.pow 10 exponent.toNat) (Nat.pow 10 (-exponent).toNat)

end Draftsman.Decimal
