/-!
# GatewayClient.Decimal.Binary64

Finite binary floating-point numbers of 64 bits, as a sign, a whole mantissa and a
power of two. `roundRatio` rounds a quotient of whole numbers to the nearest of them,
a half to the even mantissa; everything else is built from it and is exact.
-/

namespace GatewayClient.Decimal

/-- A magnitude `mantissa * 2 ^ exponent`. -/
structure Magnitude where
  mantissa : Nat
  exponent : Int
deriving DecidableEq, Repr

namespace Magnitude

/-- The least exponent of a 64-bit number. -/
def minExponent : Int := -1074

/-- The greatest exponent of a 64-bit number. -/
def maxExponent : Int := 971

/-- The least mantissa that uses all 53 bits: `2 ^ 52`. -/
def fullMantissa : Nat := 4503599627370496

/-- What all mantissas lie below: `2 ^ 53`. -/
def mantissaLimit : Nat := 9007199254740992

/-- The magnitude zero. -/
def zero : Magnitude := ⟨0, minExponent⟩

/-- Whether the magnitude is zero. -/
def isZero (x : Magnitude) : Bool := x.mantissa == 0

/-- Numerator and denominator of the value. -/
def ratio (x : Magnitude) : Nat × Nat :=
  if 0 ≤ x.exponent then (x.mantissa * Nat.pow 2 x.exponent.toNat, 1)
  else (x.mantissa, Nat.pow 2 (-x.exponent).toNat)

/-- `num / den` in units of `2 ^ e`, again as a numerator and a denominator. -/
def inUnits (num den : Nat) (e : Int) : Nat × Nat :=
  if 0 ≤ e then (num, den * Nat.pow 2 e.toNat) else (num * Nat.pow 2 (-e).toNat, den)

/-- The whole number nearest to `num / den`; of two equally near ones the even one. -/
def nearestEven (num den : Nat) : Nat :=
  let q := num / den
  let r := num % den
  if den < 2 * r ∨ (2 * r = den ∧ q % 2 = 1) then q + 1 else q

/-- The exponent at which `num / den` has a mantissa of 53 bits, or the least exponent
if that is greater. -/
def exponentOf (num den : Nat) : Int :=
  let low : Int := (Nat.log2 num : Int) - Nat.log2 den - 53
  let (n, d) := inUnits num den low
  max minExponent (if mantissaLimit ≤ n / d then low + 1 else low)

/-- The magnitude nearest to `num / den`, or nothing if that is too large. -/
def roundRatio (num den : Nat) : Option Magnitude :=
  if num = 0 then some zero
  else
    let e := exponentOf num den
    let (n, d) := inUnits num den e
    let m := nearestEven n d
    let x : Magnitude := if m = mantissaLimit then ⟨fullMantissa, e + 1⟩ else ⟨m, e⟩
    if x.exponent ≤ maxExponent then some x else none

/-- The magnitude nearest to a whole number. -/
def ofNat (n : Nat) : Option Magnitude := roundRatio n 1

/-- The rounded product. -/
def mul (x y : Magnitude) : Option Magnitude :=
  roundRatio (x.ratio.1 * y.ratio.1) (x.ratio.2 * y.ratio.2)

/-- The rounded quotient by a magnitude other than zero. -/
def div (x y : Magnitude) : Option Magnitude :=
  roundRatio (x.ratio.1 * y.ratio.2) (x.ratio.2 * y.ratio.1)

/-! ## scaling by a power of ten -/

/-- The largest power of ten that has a magnitude of its own. -/
def maxPower : Nat := 308

/-- Divides by `10 ^ n`, in steps of at most `10 ^ 308`, rounding after each step. -/
def unscale (x : Magnitude) (n : Nat) : Option Magnitude := do
  if n ≤ maxPower then x.div (← ofNat (Nat.pow 10 n))
  else if x.isZero then return x
  else unscale (← x.div (← ofNat (Nat.pow 10 maxPower))) (n - maxPower)
termination_by n
decreasing_by simp only [maxPower] at *; omega

/-- Multiplies by `10 ^ n`, rounding once. Nothing but zero can be multiplied by more
than `10 ^ 308`. -/
def scale (x : Magnitude) (n : Nat) : Option Magnitude := do
  if n ≤ maxPower then x.mul (← ofNat (Nat.pow 10 n))
  else if x.isZero then return x
  else none

/-- The magnitude read for `significand * 10 ^ exponent`: the significand is rounded
first and the scaled value once more, so that the last bit can differ from the one
nearest to the literal. Nothing if the value is too large. -/
def ofScientific (significand : Nat) (exponent : Int) : Option Magnitude := do
  let x ← ofNat significand
  if 0 ≤ exponent then x.scale exponent.toNat else x.unscale (-exponent).toNat

end Magnitude

/-- A finite 64-bit number: a sign and a magnitude. Zero has both signs. -/
structure Binary64 where
  negative : Bool
  magnitude : Magnitude
deriving DecidableEq, Repr

namespace Binary64

/-- Numeric equality: the two zeros are equal, and nothing else differs from equality. -/
def sameValue (x y : Binary64) : Bool :=
  x == y || (x.magnitude.isZero && y.magnitude.isZero)

end Binary64

end GatewayClient.Decimal
