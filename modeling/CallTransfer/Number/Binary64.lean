/-!
    Finite double-precision numbers: a sign and a magnitude `significand * 2 ^ exponent`. Magnitudes
    are kept CANONICAL: below `2 ^ 53`, the exponent at least `-1074`, and the significand at least
    `2 ^ 52` unless the exponent is `-1074`. All arithmetic rounds the exact result to the nearest
    magnitude, a tie going to the even significand, and fails when the result is too large.
-/

namespace CallTransfer

/-- A nonnegative double-precision magnitude. -/
structure Magnitude where
  significand : Nat
  exponent : Int
  deriving DecidableEq, Repr

/-- A finite double-precision number. -/
structure Binary64 where
  negative : Bool
  magnitude : Magnitude
  deriving DecidableEq, Repr

namespace Magnitude

/-- The least exponent, that of the subnormal numbers. -/
def minExponent : Int := -1074

/-- The greatest exponent. -/
def maxExponent : Int := 971

/-- The least significand of 53 bits, two to the 52nd. -/
def leastFull : Nat := 4503599627370496

/-- Nothing. -/
def zero : Magnitude := ⟨0, minExponent⟩

/-- `num / den` as a fraction over `2 ^ q`. -/
def scaled (num den : Nat) (q : Int) : Nat × Nat :=
  if q < 0 then (num * Nat.pow 2 (-q).toNat, den) else (num, den * Nat.pow 2 q.toNat)

/-- The integer nearest to `num / den`, the even one of two equally near. -/
def roundDiv (num den : Nat) : Nat :=
  let quotient := num / den
  let twice := 2 * (num % den)
  if den < twice || (den == twice && quotient % 2 == 1) then quotient + 1 else quotient

/-- The exponent at which `num / den` has a significand of 53 bits, or the least exponent. -/
def exponentOf (num den : Nat) : Int :=
  let e : Int := (num.log2 : Int) - den.log2
  let (n, d) := scaled num den e
  max minExponent (if d ≤ n then e - 52 else e - 53)

/-- The magnitude nearest to `num / den`, unless it is too large. -/
def ofRatio (num den : Nat) : Option Magnitude :=
  if num = 0 then some zero
  else
    let q := exponentOf num den
    let (n, d) := scaled num den q
    let m := roundDiv n d
    let (m, q) := if m = 2 * leastFull then (leastFull, q + 1) else (m, q)
    if maxExponent < q then none else some ⟨m, q⟩

/-- The exact value as a fraction. -/
def ratio (x : Magnitude) : Nat × Nat :=
  if x.exponent < 0 then (x.significand, Nat.pow 2 (-x.exponent).toNat)
  else (x.significand * Nat.pow 2 x.exponent.toNat, 1)

/-- The rounded product. -/
def mul (x y : Magnitude) : Option Magnitude :=
  ofRatio (x.ratio.1 * y.ratio.1) (x.ratio.2 * y.ratio.2)

/-- The rounded quotient by a nonzero magnitude. -/
def div (x y : Magnitude) : Option Magnitude :=
  ofRatio (x.ratio.1 * y.ratio.2) (x.ratio.2 * y.ratio.1)

/-- The magnitude nearest to `10 ^ k`, for `k` up to 308. -/
def powerOfTen (k : Nat) : Magnitude := (ofRatio (Nat.pow 10 k) 1).getD zero

/-- The greatest power of ten that is a magnitude. -/
def maxPower : Nat := 308

/-- `x` divided so many times by the greatest power of ten, or until nothing is left. -/
def divideDown : Nat → Magnitude → Option Magnitude
  | 0, x => some x
  | n + 1, x =>
    if x.significand = 0 then some x
    else (x.div (powerOfTen maxPower)).bind (divideDown n)

/-- `x * 10 ^ e` by one multiplication or division with a power of ten, after as many divisions by
    the greatest power as bring `e` into range. -/
def scaleByPower (x : Magnitude) (e : Int) : Option Magnitude :=
  if x.significand = 0 then some x
  else if 0 ≤ e then
    if e ≤ maxPower then x.mul (powerOfTen e.toNat) else none
  else
    let k := (-e).toNat
    let rounds := (k - 1) / maxPower
    (divideDown rounds x).bind fun y => y.div (powerOfTen (k - maxPower * rounds))

end Magnitude

end CallTransfer
