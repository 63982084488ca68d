import CallTransfer.Text.Utf8

/-!
    Base64 with the standard alphabet and padding: three bytes become four characters, and a short
    last group is filled with `=`. Reading refuses a text that is no
    written form, also one in which only the bits left over at the end are set.
-/

namespace CallTransfer.Text.Base64

/-- The character of a six-bit group. -/
def symbol (n : Nat) : Char :=
  if n < 26 then Char.ofNat (65 + n)
  else if n < 52 then Char.ofNat (71 + n)
  else if n < 62 then Char.ofNat (n - 4)
  else if n = 62 then '+' else '/'

/-- The written form of a byte string. -/
def encode : Bytes → List Char
  | [] => []
  | [a] => [symbol (a.toNat / 4), symbol (a.toNat % 4 * 16), '=', '=']
  | [a, b] =>
    [symbol (a.toNat / 4), symbol (a.toNat % 4 * 16 + b.toNat / 16), symbol (b.toNat % 16 * 4), '=']
  | a :: b :: c :: rest =>
    symbol (a.toNat / 4) :: symbol (a.toNat % 4 * 16 + b.toNat / 16) ::
      symbol (b.toNat % 16 * 4 + c.toNat / 64) :: symbol (c.toNat % 64) :: encode rest

/-- The six-bit group of a character. -/
def value? (c : Char) : Option Nat :=
  let n := c.toNat
  if 65 ≤ n ∧ n ≤ 90 then some (n - 65)
  else if 97 ≤ n ∧ n ≤ 122 then some (n - 71)
  else if 48 ≤ n ∧ n ≤ 57 then some (n + 4)
  else if c = '+' then some 62
  else if c = '/' then some 63
  else none

/-- The byte string that a text is the written form of. -/
def decode? : List Char → Option Bytes
  | [] => some []
  | [a, b, '=', '='] => do
    let a ← value? a
    let b ← value? b
    if b % 16 = 0 then some [UInt8.ofNat (a * 4 + b / 16)] else none
  | [a, b, c, '='] => do
    let a ← value? a
    let b ← value? b
    let c ← value? c
    if c % 4 = 0 then
      some [UInt8.ofNat (a * 4 + b / 16), UInt8.ofNat (b % 16 * 16 + c / 4)]
    else none
  | a :: b :: c :: d :: rest => do
    let a ← value? a
    let b ← value? b
    let c ← value? c
    let d ← value? d
    return UInt8.ofNat (a * 4 + b / 16) :: UInt8.ofNat (b % 16 * 16 + c / 4) ::
      UInt8.ofNat (c % 4 * 64 + d) :: (← decode? rest)
  | _ => none

/-! ### Reading back -/

theorem value?_symbol : ∀ n < 64, value? (symbol n) = some n := by decide

theorem symbol_ne_pad : ∀ n < 64, symbol n ≠ '=' := by decide

/-- A number that is a byte's is that byte. -/
theorem ofNat_eq {b : UInt8} {n : Nat} (h : n = b.toNat) : UInt8.ofNat n = b := by
  rw [h, UInt8.ofNat_toNat]

/-- What is written reads back. -/
theorem decode?_encode (bs : Bytes) : decode? (encode bs) = some bs := by
  fun_induction encode bs with
  | case1 => rfl
  | case2 a =>
    have ha := a.toNat_lt
    have h1 := value?_symbol (a.toNat / 4) (by omega)
    have h2 := value?_symbol (a.toNat % 4 * 16) (by omega)
    simp only [decode?, h1, h2, Option.bind_eq_bind, Option.bind_some]
    rw [if_pos (by omega), ofNat_eq (b := a) (by omega)]
  | case3 a b =>
    have ha := a.toNat_lt
    have hb := b.toNat_lt
    have h1 := value?_symbol (a.toNat / 4) (by omega)
    have h2 := value?_symbol (a.toNat % 4 * 16 + b.toNat / 16) (by omega)
    have h3 := value?_symbol (b.toNat % 16 * 4) (by omega)
    rw [decode?]
    · simp only [h1, h2, h3, Option.bind_eq_bind, Option.bind_some]
      rw [if_pos (by omega), ofNat_eq (b := a) (by omega), ofNat_eq (b := b) (by omega)]
    · simpa using symbol_ne_pad (b.toNat % 16 * 4) (by omega)
  | case4 a b c rest ih =>
    have ha := a.toNat_lt
    have hb := b.toNat_lt
    have hc := c.toNat_lt
    have h1 := value?_symbol (a.toNat / 4) (by omega)
    have h2 := value?_symbol (a.toNat % 4 * 16 + b.toNat / 16) (by omega)
    have h3 := value?_symbol (b.toNat % 16 * 4 + c.toNat / 64) (by omega)
    have h4 := value?_symbol (c.toNat % 64) (by omega)
    have n3 := symbol_ne_pad (b.toNat % 16 * 4 + c.toNat / 64) (by omega)
    have n4 := symbol_ne_pad (c.toNat % 64) (by omega)
    rw [decode?]
    · simp only [h1, h2, h3, h4, ih, Option.bind_eq_bind, Option.bind_some, Option.pure_def]
      rw [ofNat_eq (b := a) (by omega), ofNat_eq (b := b) (by omega), ofNat_eq (b := c) (by omega)]
    all_goals simp_all

end CallTransfer.Text.Base64
