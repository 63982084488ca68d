/-!
    Decimal numerals: the digits of a number without leading zeros, and the number that digits
    denote. Only the ten ASCII digits count.
-/

namespace CallTransfer.Numeral

/-- The digit of `n < 10`. -/
def digit (n : Nat) : Char := Char.ofNat (48 + n)

/-- Whether `c` is one of the ten digits. -/
def isDigit (c : Char) : Bool := '0' ≤ c && c ≤ '9'

/-- What a digit stands for. -/
def digitValue (c : Char) : Nat := c.toNat - 48

/-- The decimal digits of a number. -/
def digits (n : Nat) : List Char :=
  if n < 10 then [digit n] else digits (n / 10) ++ [digit (n % 10)]

/-- The number that digits denote. -/
def value (ds : List Char) : Nat := ds.foldl (fun n c => 10 * n + digitValue c) 0

/-- The decimal digits of an integer, after a sign if it is negative. -/
def signed (n : Int) : List Char :=
  if n < 0 then '-' :: digits n.natAbs else digits n.natAbs

/-- The number that a nonempty text of digits denotes. -/
def read? (s : List Char) : Option Nat :=
  if s.isEmpty || !s.all isDigit then none else some (value s)

theorem toNat_digit : ∀ n < 10, (digit n).toNat = 48 + n := by decide

theorem isDigit_digit : ∀ n < 10, isDigit (digit n) = true := by decide

theorem digitValue_digit {n : Nat} (h : n < 10) : digitValue (digit n) = n := by
  simp [digitValue, toNat_digit n h]

/-- One more digit counts ones, and all before it tens. -/
theorem value_concat (ds : List Char) (c : Char) :
    value (ds ++ [c]) = 10 * value ds + digitValue c := by
  simp [value]

theorem value_digits (n : Nat) : value (digits n) = n := by
  fun_induction digits n with
  | case1 n h => simp [value, digitValue_digit h]
  | case2 n h ih =>
    rw [value_concat, ih, digitValue_digit (by omega)]
    omega

theorem all_isDigit_digits (n : Nat) : (digits n).all isDigit = true := by
  fun_induction digits n with
  | case1 n h => simp [isDigit_digit n h]
  | case2 n h ih => simp [ih, isDigit_digit (n % 10) (by omega)]

theorem digits_ne_nil (n : Nat) : digits n ≠ [] := by
  rw [digits]
  split <;> simp

/-- A number reads back from its digits. -/
theorem read?_digits (n : Nat) : read? (digits n) = some n := by
  simp [read?, value_digits, all_isDigit_digits, digits_ne_nil]

end CallTransfer.Numeral
