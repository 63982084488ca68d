import CallTransfer.Number.Numeral
import CallTransfer.Text.Hex
import CallTransfer.Text.Search

/-!
    IPv6 addresses as hosts: eight groups of up to four hexadecimal digits, of which one run of zero
    groups may be left out and the last two may be written as an IPv4 address. The written form
    leaves out the longest run of at least two zero groups, the first of several.
-/

namespace CallTransfer.Url.Ipv6

/-- A group of one to four digits. -/
def group? (s : List Char) : Option Nat :=
  if s.isEmpty || 4 < s.length then none
  else s.foldlM (fun n c => (Text.Hex.value? c).map (16 * n + ·)) 0

/-- A decimal byte without leading zeros. -/
def byte? (s : List Char) : Option Nat :=
  match s with
  | '0' :: _ :: _ => none
  | s => (Numeral.read? s).filter (· < 256)

/-- The two groups of a dotted address. -/
def dotted? (s : List Char) : Option (List Nat) :=
  match (Text.fields '.' s).mapM byte? with
  | some [a, b, c, d] => some [256 * a + b, 256 * c + d]
  | _ => none

/-- Groups between colons; only the last may be dotted. -/
def groups? : List (List Char) → Option (List Nat)
  | [] => some []
  | [s] => if s.contains '.' then dotted? s else (group? s).map ([·])
  | s :: ss => do return (← group? s) :: (← groups? ss)

/-- One side of the groups that are left out. -/
def side? (s : List Char) : Option (List Nat) :=
  if s.isEmpty then some [] else groups? (Text.fields ':' s)

/-- The texts before and after the first pair of colons. -/
def splitAtGap : List Char → Option (List Char × List Char)
  | ':' :: ':' :: s => some ([], s)
  | c :: s => (splitAtGap s).map fun (a, b) => (c :: a, b)
  | [] => none

/-- The eight groups of an address. -/
def parse? (s : List Char) : Option (List Nat) :=
  match splitAtGap s with
  | none => (side? s).filter (·.length == 8)
  | some (a, b) => do
    if a.contains '.' then none
    let before ← side? a
    let behind ← side? b
    if before.length + behind.length ≤ 7 then
      some (before ++ List.replicate (8 - before.length - behind.length) 0 ++ behind)
    else none

/-- Start and length of the longest run of zeros, the first of several. -/
def longestRun : List Nat → Nat × Nat
  | [] => (0, 0)
  | g :: gs =>
    let here := ((g :: gs).takeWhile (· == 0)).length
    let (start, length) := longestRun gs
    if length ≤ here then (0, here) else (start + 1, length)

/-- Groups with colons between them. -/
def joinGroups (gs : List Nat) : List Char :=
  [':'].intercalate (gs.map Text.Hex.ofNat)

/-- The written form of eight groups. -/
def render (gs : List Nat) : List Char :=
  let (start, length) := longestRun gs
  if length < 2 then joinGroups gs
  else joinGroups (gs.take start) ++ ':' :: ':' :: joinGroups (gs.drop (start + length))

/-! ### The first of two runs of zeros is left out -/

example : render [0x2001, 0xdb8, 0, 0, 1, 0, 0, 1] = "2001:db8::1:0:0:1".toList := by
  decide +kernel

example : parse? "2001:db8::1:0:0:1".toList = some [0x2001, 0xdb8, 0, 0, 1, 0, 0, 1] := by
  decide +kernel

end CallTransfer.Url.Ipv6
