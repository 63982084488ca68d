/-!
    White space in the sense of Unicode's `White_Space` property, and texts without it at the ends.
-/

namespace CallTransfer.Text

/-- The characters with the property `White_Space`. -/
def isBlank (c : Char) : Bool :=
  let n := c.toNat
  (9 ≤ n && n ≤ 13) || n == 0x20 || n == 0x85 || n == 0xA0 || n == 0x1680 ||
    (0x2000 ≤ n && n ≤ 0x200A) || n == 0x2028 || n == 0x2029 || n == 0x202F || n == 0x205F ||
    n == 0x3000

/-- `s` without the longest run at its end that satisfies `p`. -/
def dropEndWhile (p : α → Bool) (s : List α) : List α := (s.reverse.dropWhile p).reverse

/-- `s` without the longest runs at both ends that satisfy `p`. -/
def trimBy (p : α → Bool) (s : List α) : List α := dropEndWhile p (s.dropWhile p)

/-- `s` without white space at either end. -/
def trim (s : List Char) : List Char := trimBy isBlank s

/-- All of ASCII's white space is white space. -/
theorem isBlank_of_isWhitespace {c : Char} (h : c.isWhitespace = true) : isBlank c = true := by
  simp only [Char.isWhitespace, Bool.or_eq_true, decide_eq_true_eq] at h
  rcases h with ((rfl | rfl) | rfl) | rfl <;> decide

end CallTransfer.Text
