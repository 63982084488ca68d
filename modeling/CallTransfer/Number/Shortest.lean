import CallTransfer.Number.Binary64
import CallTransfer.Number.Numeral

/-!
    The shortest decimal that reads back as a given double: of all decimals inside the interval of
    reals that round to the number, one with the fewest digits, and of those the nearest. For each
    count of digits the two neighbours of the number on that decimal grid are tried.
-/

namespace CallTransfer.Shortest

/-- A decimal `coefficient * 10 ^ exponent`. -/
structure Decimal where
  coefficient : Nat
  exponent : Int
  deriving DecidableEq, Repr

/-- `num / den` as a fraction over `10 ^ k`. -/
def overPower (num den : Nat) (k : Int) : Nat × Nat :=
  if k < 0 then (num * Nat.pow 10 (-k).toNat, den) else (num, den * Nat.pow 10 k.toNat)

/-- The exponent `p` with `10 ^ p ≤ num / den < 10 ^ (p + 1)`. -/
def decimalExponent (num den : Nat) : Int :=
  let p : Int := ((Numeral.digits num).length : Int) - (Numeral.digits den).length
  let (n, d) := overPower num den p
  if d ≤ n then p else p - 1

/-- The ends of the interval that rounds to `x`, as numerators over four times the denominator of
    `x`: the lower end is nearer where the significand is the least of its exponent. -/
def interval (x : Magnitude) : Nat × Nat :=
  let unit := if x.exponent < 0 then 1 else Nat.pow 2 x.exponent.toNat
  let isLeast := x.significand = Magnitude.leastFull ∧ x.exponent ≠ Magnitude.minExponent
  let below := if isLeast then 1 else 2
  (unit * (4 * x.significand - below), unit * (4 * x.significand + 2))

/-- Whether the decimal `c * 10 ^ k` rounds to `x`. -/
def readsBack (x : Magnitude) (c : Nat) (k : Int) : Bool :=
  let (low, high) := interval x
  let den := 4 * x.ratio.2
  let (n, d) := overPower c 1 (-k)
  if x.significand % 2 = 0 then low * d ≤ n * den && n * den ≤ high * d
  else low * d < n * den && n * den < high * d

/-- The neighbour of `x` on the grid of `10 ^ k` that reads back, the nearer of two. -/
def neighbour (x : Magnitude) (k : Int) : Option Nat :=
  let (n, d) := overPower x.ratio.1 x.ratio.2 k
  let c := n / d
  let nearer := Magnitude.roundDiv n d
  match readsBack x c k, readsBack x (c + 1) k with
  | true, true => some nearer
  | true, false => some c
  | false, true => some (c + 1)
  | false, false => none

/-- Seventeen digits always suffice. -/
def maxDigits : Nat := 17

/-- The shortest decimal of a nonzero magnitude. -/
def ofMagnitude (x : Magnitude) : Decimal :=
  let p := decimalExponent x.ratio.1 x.ratio.2
  let grids := (List.range maxDigits).map fun (n : Nat) => p - n
  (grids.findSome? fun k => (neighbour x k).map (Decimal.mk · k)).getD ⟨0, 0⟩

end CallTransfer.Shortest
