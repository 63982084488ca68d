import CallTransfer.Json.Value
import CallTransfer.Number.Shortest
import CallTransfer.Text.Hex

/-!
    Compact JSON text: no blanks, members in the order in which they stand. Quotes, backslashes and
    control characters are escaped and everything else is written as it is. A double is written
    with the fewest digits that read back, positionally from 1e-5 up to 1e16 and always with a
    point there, otherwise with one digit before the point and a signed exponent.
-/

namespace CallTransfer.Json

/-- A character inside quotes. -/
def escapeChar (c : Char) : List Char :=
  if c = '"' then ['\\', '"']
  else if c = '\\' then ['\\', '\\']
  else if c.toNat < 0x20 then
    match c.toNat with
    | 8 => ['\\', 'b']
    | 9 => ['\\', 't']
    | 10 => ['\\', 'n']
    | 12 => ['\\', 'f']
    | 13 => ['\\', 'r']
    | n => ['\\', 'u', '0', '0', Text.Hex.lower (n / 16), Text.Hex.lower (n % 16)]
  else [c]

/-- A text in quotes. -/
def writeString (s : String) : List Char := '"' :: s.toList.flatMap escapeChar ++ ['"']

/-- Digits `ds` whose first stands at `10 ^ p`, positionally. -/
def positional (ds : List Char) (p : Int) : List Char :=
  if p < 0 then '0' :: '.' :: List.replicate (-p - 1).toNat '0' ++ ds
  else
    let whole := p.toNat + 1
    let fraction := ds.drop whole
    ds.take whole ++ List.replicate (whole - ds.length) '0' ++
      '.' :: (if fraction.isEmpty then ['0'] else fraction)

/-- Digits `ds` whose first stands at `10 ^ p`, with an exponent. -/
def scientific (ds : List Char) (p : Int) : List Char :=
  let point := match ds with
    | d :: [] => [d]
    | d :: rest => d :: '.' :: rest
    | [] => ['0']
  point ++ 'e' :: (if p < 0 then '-' else '+') :: Numeral.digits p.natAbs

/-- A magnitude in decimal. -/
def writeMagnitude (x : Magnitude) : List Char :=
  if x.significand = 0 then ['0', '.', '0']
  else
    let d := Shortest.ofMagnitude x
    let all := Numeral.digits d.coefficient
    let p := d.exponent + all.length - 1
    let ds := (all.reverse.dropWhile (· == '0')).reverse
    if -5 ≤ p ∧ p < 16 then positional ds p else scientific ds p

/-- A number. -/
def writeNumber : Number → List Char
  | .int n => Numeral.signed n
  | .float x => if x.negative then '-' :: writeMagnitude x.magnitude else writeMagnitude x.magnitude

mutual

/-- A value. -/
def write : Value → List Char
  | .null => "null".toList
  | .bool true => "true".toList
  | .bool false => "false".toList
  | .number n => writeNumber n
  | .string s => writeString s
  | .array [] => ['[', ']']
  | .array (v :: vs) => '[' :: write v ++ writeItems vs
  | .object [] => ['\x7b', '\x7d']
  | .object ((k, v) :: ms) => '\x7b' :: writeString k ++ ':' :: write v ++ writeMembers ms

/-- The items after the first, up to the closing bracket. -/
def writeItems : List Value → List Char
  | [] => [']']
  | v :: vs => ',' :: write v ++ writeItems vs

/-- The members after the first, up to the closing brace. -/
def writeMembers : Members Value → List Char
  | [] => ['\x7d']
  | (k, v) :: ms => ',' :: writeString k ++ ':' :: write v ++ writeMembers ms

end

/-- The compact text of a value. -/
def Value.render (v : Value) : String := String.ofList (write v)

/-! ### Doubles at the ends of positional writing -/

example : (Magnitude.ofRatio 1 100000).map writeMagnitude = some "0.00001".toList := by
  decide +kernel

example : (Magnitude.ofRatio 1 10000000).map writeMagnitude = some "1e-7".toList := by
  decide +kernel

example : (Magnitude.ofRatio 1000000000000000 1).map writeMagnitude =
    some "1000000000000000.0".toList := by
  decide +kernel

example : (Magnitude.ofRatio 10000000000000000 1).map writeMagnitude = some "1e+16".toList := by
  decide +kernel

example : writeMagnitude ⟨1, -1074⟩ = "5e-324".toList := by
  decide +kernel

example : (Magnitude.ofRatio 3 10).map writeMagnitude = some "0.3".toList := by
  decide +kernel

end CallTransfer.Json
