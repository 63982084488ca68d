import CallTransfer.Number.Numeral
import CallTransfer.Text.Hex
import CallTransfer.Text.Search

/-!
    IPv4 addresses as hosts. A host whose last field is a number is an address: up to four fields,
    each decimal, octal after `0` or hexadecimal after `0x`, the last one filling all bytes that the
    others leave.
-/

namespace CallTransfer.Url.Ipv4

/-- The number of digits in a base, unless one is no digit there. -/
def inBase? (base : Nat) (s : List Char) : Option Nat :=
  s.foldlM (fun n c => do
    let d ← Text.Hex.value? c
    if d < base then some (base * n + d) else none) 0

/-- The number that a field denotes. -/
def number? : List Char → Option Nat
  | [] => none
  | '0' :: 'x' :: s => inBase? 16 s
  | '0' :: 'X' :: s => inBase? 16 s
  | '0' :: c :: s => inBase? 8 (c :: s)
  | s => inBase? 10 s

/-- The fields of a host, less an empty last one. -/
def fieldsOf (s : List Char) : List (List Char) :=
  let fs := Text.fields '.' s
  if fs.length ≠ 1 ∧ fs.getLast? = some [] then fs.dropLast else fs

/-- Whether a host must be an address. -/
def endsInNumber (s : List Char) : Bool :=
  match (fieldsOf s).getLast? with
  | some f => (!f.isEmpty && f.all Numeral.isDigit) || (number? f).isSome
  | none => false

/-- The address of fields: the last one fills the bytes that are left. -/
def combine : Nat → List Nat → Option Nat
  | bytes, [n] => if n < Nat.pow 256 bytes then some n else none
  | bytes + 1, n :: ns =>
    if n < 256 then (combine bytes ns).map (n * Nat.pow 256 bytes + ·) else none
  | _, _ => none

/-- The address that a host denotes. -/
def parse? (s : List Char) : Option Nat :=
  let fs := fieldsOf s
  if 4 < fs.length then none else fs.mapM number? >>= combine 4

/-- An address as four decimal numbers. -/
def render (n : Nat) : List Char :=
  Numeral.digits (n / 16777216 % 256) ++ '.' :: Numeral.digits (n / 65536 % 256) ++
    '.' :: Numeral.digits (n / 256 % 256) ++ '.' :: Numeral.digits (n % 256)

/-! ### Fewer than four fields, in any base -/

example : parse? "0x7f.1".toList = some 2130706433 := by decide +kernel

example : render 2130706433 = "127.0.0.1".toList := by decide +kernel

end CallTransfer.Url.Ipv4
