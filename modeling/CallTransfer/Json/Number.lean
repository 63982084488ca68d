import CallTransfer.Json.Value
import CallTransfer.Number.Numeral
import CallTransfer.Text.Utf8

/-!
    Numbers in JSON text. The GRAMMAR is a sign, digits without a leading zero, a fraction and an
    exponent. The VALUE is taken from the leading digits that fit 64 bits; a number with a fraction,
    an exponent or more digits is those digits times a power of ten in double precision, and fails
    when that is too large.
-/

namespace CallTransfer.Json

open Text.Utf8 (Scanned)

/-- A reader takes what it reads from the front of a text and returns the rest. -/
abbrev Reader (α : Type) := Scanned → Option (α × Scanned)

/-- The parts of a number as written. -/
structure NumberText where
  negative : Bool
  whole : List Char
  fraction : Option (List Char)
  exponent : Option (Bool × List Char)
  deriving Repr

/-- The digits at the front of a text. -/
def takeDigits : Scanned → List Char × Scanned
  | some c :: s =>
    if Numeral.isDigit c then
      let (ds, rest) := takeDigits s
      (c :: ds, rest)
    else ([], some c :: s)
  | s => ([], s)

/-- At least one digit. -/
def digitsReader : Reader (List Char) := fun s =>
  match takeDigits s with
  | ([], _) => none
  | r => some r

/-- Digits of which only a lone zero may start with a zero. -/
def wholeReader : Reader (List Char)
  | some '0' :: s => some (['0'], s)
  | s => digitsReader s

/-- A point and digits, if there is a point. -/
def fractionReader : Reader (Option (List Char))
  | some '.' :: s => (digitsReader s).map fun (ds, s) => (some ds, s)
  | s => some (none, s)

/-- The sign and digits of an exponent, if there is one; `true` is a minus sign. -/
def exponentReader : Reader (Option (Bool × List Char))
  | some c :: s =>
    if c = 'e' ∨ c = 'E' then
      match s with
      | some '+' :: s => (digitsReader s).map fun (ds, s) => (some (false, ds), s)
      | some '-' :: s => (digitsReader s).map fun (ds, s) => (some (true, ds), s)
      | s => (digitsReader s).map fun (ds, s) => (some (false, ds), s)
    else some (none, some c :: s)
  | s => some (none, s)

/-- A number by its grammar alone. -/
def numberText : Reader NumberText := fun s => do
  let (negative, s) := match s with
    | some '-' :: s => (true, s)
    | s => (false, s)
  let (whole, s) ← wholeReader s
  let (fraction, s) ← fractionReader s
  let (exponent, s) ← exponentReader s
  return (⟨negative, whole, fraction, exponent⟩, s)

/-- The number that digits make of `n` while it stays below `bound`, and the digits left over. -/
def accumulate (bound : Nat) : Nat → List Char → Nat × List Char
  | n, [] => (n, [])
  | n, c :: ds =>
    if 10 * n + Numeral.digitValue c < bound then
      accumulate bound (10 * n + Numeral.digitValue c) ds
    else (n, c :: ds)

/-- Exponents stay below two to the 31st in size. -/
def exponentBound : Nat := 2147483648

/-- An exponent: its value while that fits 31 bits, else whether it is negative. -/
def exponentValue (negative : Bool) (ds : List Char) : Except Bool Int :=
  match accumulate exponentBound 0 ds with
  | (n, []) => .ok (if negative then -n else n)
  | _ => .error negative

/-- `significand * 10 ^ e` in double precision, with a sign. -/
def scaledFloat (negative : Bool) (significand : Nat) (e : Int) : Option Number := do
  let x ← Magnitude.ofRatio significand 1
  return .float ⟨negative, ← x.scaleByPower e⟩

/-- A sum of exponents, kept within 32 bits. -/
def clampExponent (e : Int) : Int := max (-exponentBound) (min (exponentBound - 1) e)

/-- How far integers of 64 bits with a sign go below zero. -/
def int64Bound : Nat := 9223372036854775808

/-- The number that a text denotes, unless it is too large. -/
def NumberText.value? (t : NumberText) : Option Number :=
  let (significand, dropped) := accumulate UInt64.size 0 t.whole
  if t.fraction.isNone && t.exponent.isNone && dropped.isEmpty then
    if !t.negative then some (.int significand)
    else if 0 < significand ∧ significand ≤ int64Bound then some (.int (-significand))
    else scaledFloat true significand 0
  else
    let digits := t.fraction.getD []
    let (significand, left) := accumulate UInt64.size significand digits
    let start : Int := (dropped.length : Int) - (digits.length - left.length : Nat)
    match t.exponent with
    | none => scaledFloat t.negative significand start
    | some (minus, ds) =>
      match exponentValue minus ds with
      | .ok e => scaledFloat t.negative significand (clampExponent (start + e))
      | .error minus =>
        if minus || significand = 0 then some (.float ⟨t.negative, Magnitude.zero⟩) else none

end CallTransfer.Json
