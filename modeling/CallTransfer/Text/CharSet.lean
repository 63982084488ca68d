import CallTransfer.Text.Hex
import CallTransfer.Text.Search

/-!
    Sets of characters given by ranges of code points, as standards list them: `41-5A 61-7A AA`.
-/

namespace CallTransfer.Text

/-- A set of characters by the ends of its ranges. -/
structure CharSet where
  ranges : Array (Nat × Nat)

namespace CharSet

/-- The number of hexadecimal digits. -/
def hexValue (s : List Char) : Nat := s.foldl (fun n c => 16 * n + (Hex.value? c).getD 0) 0

/-- One range, or one code point. -/
def rangeOf (s : List Char) : Nat × Nat :=
  let low := s.takeWhile (· ≠ '-')
  match s.drop low.length with
  | _ :: high => (hexValue low, hexValue high)
  | [] => (hexValue low, hexValue low)

/-- The set of a list of ranges. -/
def ofText (text : String) : CharSet where
  ranges := (((fields ' ' text.toList).filter (!·.isEmpty)).map rangeOf).toArray

/-- Whether a character is in the set. -/
def contains (set : CharSet) (c : Char) : Bool :=
  set.ranges.any fun r => r.1 ≤ c.toNat && c.toNat ≤ r.2

end CharSet

end CallTransfer.Text
