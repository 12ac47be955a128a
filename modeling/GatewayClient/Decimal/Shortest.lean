import GatewayClient.Decimal.Binary64
import GatewayClient.Text.Numeral

/-!
# GatewayClient.Decimal.Shortest

The shortest decimal form of a 64-bit number: the fewest digits that read back as the
same number, and among those the digits nearest to its exact value. The search runs
over the grids of multiples of a power of ten, from coarse to fine; if a point of a grid
lies in the interval of values that round to the number, then so does one of the two
neighbours of the exact value on that grid.
-/

namespace GatewayClient.Decimal

/-- The values that round to a magnitude, in units of `2 ^ exponent`: a lower and an upper
end, and whether the ends belong to it. -/
structure Interval where
  low : Nat
  mid : Nat
  high : Nat
  exponent : Int
  closed : Bool

/-- The interval of a magnitude. Below a power of two the neighbours are half as far. -/
def Magnitude.interval (x : Magnitude) : Interval :=
  let m := x.mantissa
  let isPower := m = Magnitude.fullMantissa && x.exponent != Magnitude.minExponent
  { low := if isPower then 4 * m - 1 else 4 * m - 2
    mid := 4 * m
    high := 4 * m + 2
    exponent := x.exponent - 2
    closed := m % 2 = 0 }

/-- `n * 2 ^ e / 10 ^ p` as a numerator and a denominator. -/
def scaledRatio (n : Nat) (e p : Int) : Nat × Nat :=
  let num := (if 0 ≤ e then n * Nat.pow 2 e.toNat else n) *
    (if p < 0 then Nat.pow 10 (-p).toNat else 1)
  let den := (if e < 0 then Nat.pow 2 (-e).toNat else 1) * (if 0 ≤ p then Nat.pow 10 p.toNat else 1)
  (num, den)

/-- Whether the grid point `d * 10 ^ p` lies in the interval. -/
def Interval.contains (i : Interval) (p : Int) (d : Nat) : Bool :=
  let (lowNum, den) := scaledRatio i.low i.exponent p
  let (highNum, _) := scaledRatio i.high i.exponent p
  if i.closed then lowNum ≤ d * den && d * den ≤ highNum
  else lowNum < d * den && d * den < highNum

/-- The point of the grid of `10 ^ p` that lies in the interval and is nearest to its
exact value; of two equally near ones the even one. -/
def Interval.nearestOnGrid? (i : Interval) (p : Int) : Option Nat :=
  let (num, den) := scaledRatio i.mid i.exponent p
  let below := num / den
  let above := below + 1
  match i.contains p below, i.contains p above with
  | true, true =>
    let rest := num % den
    if 2 * rest < den ∨ (2 * rest = den ∧ below % 2 = 0) then some below else some above
  | true, false => some below
  | false, true => some above
  | false, false => none

/-- Tries the grids of `10 ^ p`, `10 ^ (p - 1)` and so on. -/
def Interval.search (i : Interval) : Nat → Int → Nat × Int
  | 0, p => (i.mid, p)
  | fuel + 1, p =>
    match i.nearestOnGrid? p with
    | some d => (d, p)
    | none => i.search fuel (p - 1)

/-- A power of ten above the interval: `30103 / 100000` is just above the decimal logarithm
of two. -/
def Interval.startPower (i : Interval) : Int :=
  ((Nat.log2 i.high : Int) + 1 + i.exponent) * 30103 / 100000 + 1

/-- The shortest decimal form of a magnitude other than zero: digits and the power of ten
that they count. Seventeen digits are always enough. -/
def Magnitude.shortest (x : Magnitude) : Nat × Int :=
  x.interval.search 24 x.interval.startPower

/-! ## the written form -/

/-- How numbers are written: positionally with at least one place after the point while
the point falls at most five places before the first digit or sixteen after it, and
otherwise with one digit before the point and a signed exponent. -/
def layout (ds : List Char) (power : Int) : List Char :=
  let point := (ds.length : Int) + power
  if 0 ≤ power ∧ point ≤ 16 then ds ++ List.replicate power.toNat '0' ++ ['.', '0']
  else if 0 < point ∧ point ≤ 16 then ds.take point.toNat ++ ['.'] ++ ds.drop point.toNat
  else if -5 < point ∧ point ≤ 0 then
    ['0', '.'] ++ List.replicate (-point).toNat '0' ++ ds
  else
    let e := point - 1
    let sign := if e < 0 then '-' else '+'
    let fraction := if ds.length ≤ 1 then [] else '.' :: ds.drop 1
    ds.take 1 ++ fraction ++ ['e', sign] ++ Text.numeral 10 e.natAbs

/-- The written form of a 64-bit number. -/
def Binary64.render (x : Binary64) : List Char :=
  let body :=
    if x.magnitude.isZero then ['0', '.', '0']
    else
      let (d, p) := x.magnitude.shortest
      layout (Text.numeral 10 d) p
  if x.negative then '-' :: body else body

end GatewayClient.Decimal
