import CallTransfer.Json.Number
import CallTransfer.Text.Hex

/-!
    Strings in JSON text. A string is first cut into PIECES: characters, escaped UTF-16 units, and
    bytes that are no character. A string that is skipped needs no more; one that is read must have
    its units joined in surrogate pairs and may hold no stray bytes.
-/

namespace CallTransfer.Json

open Text.Utf8 (Scanned)

/-- What stands between quotes. -/
inductive Piece where
  | char (c : Char)
  | unit (n : Nat)
  | stray
  deriving DecidableEq, Repr

/-- The number of four hexadecimal digits. -/
def unit? (a b c d : Option Char) : Option Nat := do
  let a ← a.bind Text.Hex.value?
  let b ← b.bind Text.Hex.value?
  let c ← c.bind Text.Hex.value?
  let d ← d.bind Text.Hex.value?
  return 4096 * a + 256 * b + 16 * c + d

/-- The character that a letter after a backslash stands for. -/
def unescape? : Char → Option Char
  | '"' => some '"'
  | '\\' => some '\\'
  | '/' => some '/'
  | 'b' => some '\x08'
  | 'f' => some '\x0c'
  | 'n' => some '\n'
  | 'r' => some '\r'
  | 't' => some '\t'
  | _ => none

/-- The pieces up to the closing quote, which is taken off too. -/
def pieces : Reader (List Piece)
  | [] => none
  | none :: s => (pieces s).map fun (ps, s) => (.stray :: ps, s)
  | some '"' :: s => some ([], s)
  | some '\\' :: some 'u' :: a :: b :: c :: d :: s => do
    let n ← unit? a b c d
    let (ps, s) ← pieces s
    return (.unit n :: ps, s)
  | some '\\' :: some e :: s => do
    let c ← unescape? e
    let (ps, s) ← pieces s
    return (.char c :: ps, s)
  | some c :: s =>
    if c = '\\' ∨ c.toNat < 0x20 then none
    else (pieces s).map fun (ps, s) => (.char c :: ps, s)

/-- Whether a UTF-16 unit opens a surrogate pair. -/
def isHigh (n : Nat) : Bool := 0xD800 ≤ n && n < 0xDC00

/-- Whether a UTF-16 unit closes a surrogate pair. -/
def isLow (n : Nat) : Bool := 0xDC00 ≤ n && n < 0xE000

/-- The characters that pieces spell. -/
def join : List Piece → Option (List Char)
  | [] => some []
  | .char c :: ps => (join ps).map (c :: ·)
  | .stray :: _ => none
  | .unit h :: .unit l :: ps =>
    if isHigh h then
      if isLow l then
        (join ps).map (Char.ofNat (0x10000 + 0x400 * (h - 0xD800) + (l - 0xDC00)) :: ·)
      else none
    else if isLow h then none
    else (join (.unit l :: ps)).map (Char.ofNat h :: ·)
  | .unit h :: ps =>
    if isHigh h || isLow h then none else (join ps).map (Char.ofNat h :: ·)

/-- A string after its opening quote. -/
def stringReader : Reader String := fun s => do
  let (ps, s) ← pieces s
  let cs ← join ps
  return (String.ofList cs, s)

end CallTransfer.Json
