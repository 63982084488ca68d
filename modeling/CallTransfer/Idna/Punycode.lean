/-!
    Punycode, which writes a label in the letters, digits and hyphen of ASCII. The ASCII characters
    come first; behind the last hyphen stand numbers, each of which says where the next other
    character goes and how much greater it is than the one before. A number is written in base 36,
    lowest digit first, and the digit below its place's THRESHOLD ends it; thresholds follow a bias
    that adapts to the numbers seen.
-/

namespace CallTransfer.Idna.Punycode

/-- The digit of `n < 36`. -/
def digit (n : Nat) : Char := if n < 26 then Char.ofNat (97 + n) else Char.ofNat (22 + n)

/-- What a digit stands for. -/
def digitValue? (c : Char) : Option Nat :=
  let n := c.toNat
  if 97 ≤ n ∧ n ≤ 122 then some (n - 97)
  else if 65 ≤ n ∧ n ≤ 90 then some (n - 65)
  else if 48 ≤ n ∧ n ≤ 57 then some (n - 22)
  else none

/-- The threshold at a place; places go up by 36. -/
def threshold (bias place : Nat) : Nat := max 1 (min 26 (place - bias))

/-- The bias for numbers of about the size of `delta`, on top of `bias`. -/
def biasFor (delta bias : Nat) : Nat :=
  if 455 < delta then biasFor (delta / 35) (bias + 36) else bias + 36 * delta / (delta + 38)
termination_by delta
decreasing_by exact Nat.div_lt_self (by omega) (by omega)

/-- The bias after a number, when `count` characters have been placed. -/
def adapt (number count : Nat) (first : Bool) : Nat :=
  let delta := if first then number / 700 else number / 2
  biasFor (delta + delta / count) 0

/-- A number from a place on. -/
def writeNumber (bias place n : Nat) : List Char :=
  let t := threshold bias place
  if n < t then [digit n]
  else digit (t + (n - t) % (36 - t)) :: writeNumber bias (place + 36) ((n - t) / (36 - t))
termination_by n
decreasing_by
  have h : 1 ≤ threshold bias place := by unfold threshold; omega
  have : (n - threshold bias place) / (36 - threshold bias place) ≤ n - threshold bias place :=
    Nat.div_le_self _ _
  omega

/-- Whether a character is in ASCII. -/
def isAscii (c : Char) : Bool := c.toNat < 128

/-- How far a label has been written: `gap` is the number to write when the next character of
    the code point in turn is met, and `placed` counts the characters that stand already. -/
structure Writing where
  gap : Nat
  bias : Nat
  placed : Nat
  written : List Char

/-- Passes one character of the label while those with code point `n` are written. -/
def passChar (first n : Nat) (w : Writing) (c : Char) : Writing :=
  if c.toNat < n then { w with gap := w.gap + 1 }
  else if c.toNat = n then
    ⟨0, adapt w.gap (w.placed + 1) (w.placed == first), w.placed + 1,
      w.written ++ writeNumber w.bias 36 w.gap⟩
  else w

/-- Writes all characters with code point `n`, when those below `start` have been written. -/
def passLabel (label : List Char) (first : Nat) : Writing × Nat → Nat → Writing × Nat
  | (w, start), n =>
    let w := { w with gap := w.gap + (n - start) * (w.placed + 1) }
    let w := label.foldl (passChar first n) w
    ({ w with gap := w.gap + 1 }, n + 1)

/-- The written form of a label. -/
def encode (label : List Char) : List Char :=
  let ascii := label.filter isAscii
  let others := ((label.filter (!isAscii ·)).map Char.toNat).mergeSort.eraseDups
  let (w, _) := others.foldl (passLabel label ascii.length) (⟨0, 72, ascii.length, []⟩, 128)
  (if ascii.isEmpty then [] else ascii ++ ['-']) ++ w.written

/-- How far a label has been read: the last code point placed and where the next one would go, and
    of the number at hand its sum so far with the place and weight of its next digit. -/
structure Reading where
  label : List Char
  code : Nat
  index : Nat
  bias : Nat
  sum : Nat
  place : Nat
  weight : Nat

/-- Puts the next character where a finished number says. -/
def Reading.insert (r : Reading) (sum : Nat) : Option Reading :=
  let count := r.label.length + 1
  let code := r.code + sum / count
  let spot := sum % count
  if Nat.isValidChar code then
    some ⟨r.label.insertIdx spot (Char.ofNat code), code, spot + 1,
      adapt (sum - r.index) count (r.index == 0), spot + 1, 36, 1⟩
  else none

/-- Reads one digit. -/
def Reading.next (r : Reading) (c : Char) : Option Reading := do
  let d ← digitValue? c
  let t := threshold r.bias r.place
  let sum := r.sum + d * r.weight
  if d < t then r.insert sum
  else some { r with sum := sum, place := r.place + 36, weight := r.weight * (36 - t) }

/-- The label that a text spells, unless a number in it is unfinished or out of range. -/
def decode? (text : List Char) : Option (List Char) := do
  let behind := (text.reverse.takeWhile (· ≠ '-')).reverse
  let ascii := (text.take (text.length - behind.length)).dropLast
  let digits := if ascii.isEmpty then text else behind
  if !ascii.all isAscii then none
  let r ← digits.foldlM Reading.next ⟨ascii, 128, 0, 72, 0, 36, 1⟩
  if r.place = 36 then some r.label else none

/-! ### A label both ways -/

example : encode "bücher".toList = "bcher-kva".toList := by decide +kernel

example : decode? "bcher-kva".toList = some "bücher".toList := by decide +kernel

end CallTransfer.Idna.Punycode
