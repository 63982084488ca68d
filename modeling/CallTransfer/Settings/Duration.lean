import CallTransfer.Number.Numeral
import CallTransfer.Text.Blank
import CallTransfer.Text.Search

/-!
    Durations in settings: digits and one of the units ms, s, m, h, with blanks around them at most.
    A duration that does not fit 64 bits of milliseconds is none.
-/

namespace CallTransfer.Duration

/-- The milliseconds in a unit. -/
def unit? (s : List Char) : Option Nat :=
  if s = ['m', 's'] then some 1
  else if s = ['s'] then some 1000
  else if s = ['m'] then some 60000
  else if s = ['h'] then some 3600000
  else none

/-- The milliseconds that a text denotes. -/
def parse? (text : String) : Option Nat := do
  let s := Text.trim text.toList
  let n ← Numeral.read? (s.takeWhile Numeral.isDigit)
  let unit ← unit? (s.dropWhile Numeral.isDigit)
  if n * unit < UInt64.size then some (n * unit) else none

end CallTransfer.Duration
