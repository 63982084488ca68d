import CallTransfer.Text.Utf8

/-!
    Hexadecimal digits: small letters for text, capitals for percent-encoding, and either when read.
-/

namespace CallTransfer.Text.Hex

/-- The digit of `n < 16`, with small letters. -/
def lower (n : Nat) : Char := if n < 10 then Char.ofNat (48 + n) else Char.ofNat (87 + n)

/-- The digit of `n < 16`, with capital letters. -/
def upper (n : Nat) : Char := if n < 10 then Char.ofNat (48 + n) else Char.ofNat (55 + n)

/-- What a digit of either case stands for. -/
def value? (c : Char) : Option Nat :=
  let n := c.toNat
  if 48 ≤ n ∧ n ≤ 57 then some (n - 48)
  else if 97 ≤ n ∧ n ≤ 102 then some (n - 87)
  else if 65 ≤ n ∧ n ≤ 70 then some (n - 55)
  else none

/-- A number without leading zeros. -/
def ofNat (n : Nat) : List Char :=
  if n < 16 then [lower n] else ofNat (n / 16) ++ [lower (n % 16)]

/-- Two small digits a byte. -/
def ofBytes (bs : Bytes) : List Char :=
  bs.flatMap fun b => [lower (b.toNat / 16), lower (b.toNat % 16)]

/-- The bytes that pairs of digits spell. -/
def toBytes? : List Char → Option Bytes
  | [] => some []
  | a :: b :: rest => do
    let hi ← value? a
    let lo ← value? b
    return UInt8.ofNat (16 * hi + lo) :: (← toBytes? rest)
  | [_] => none

theorem value?_lower : ∀ n < 16, value? (lower n) = some n := by decide

theorem value?_upper : ∀ n < 16, value? (upper n) = some n := by decide

/-- A byte is made of its two halves. -/
theorem ofNat_halves (b : UInt8) : UInt8.ofNat (16 * (b.toNat / 16) + b.toNat % 16) = b := by
  rw [Nat.div_add_mod, UInt8.ofNat_toNat]

/-- Bytes read back from their digits. -/
theorem toBytes?_ofBytes (bs : Bytes) : toBytes? (ofBytes bs) = some bs := by
  induction bs with
  | nil => rfl
  | cons b bs ih =>
    have hb := b.toNat_lt
    have h : ofBytes (b :: bs) = lower (b.toNat / 16) :: lower (b.toNat % 16) :: ofBytes bs := rfl
    rw [h, toBytes?, value?_lower _ (by omega), value?_lower _ (by omega), ih]
    simp only [Option.bind_eq_bind, Option.bind_some, ofNat_halves, Option.pure_def]

end CallTransfer.Text.Hex
