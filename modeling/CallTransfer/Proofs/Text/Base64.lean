import CallTransfer.Text.Base64
import Mathlib.Algebra.Group.Nat.Defs
import Mathlib.Data.List.Basic

/-!
    Base64 as its STANDARD has it. The bits of all bytes are put in a row, with zeros behind them
    until they come in sixes; each six is told by a character of the alphabet; and padding stands
    behind these until the characters come in fours. There is one such text for any bytes: it is
    what is written for them, and no other text is read as them.
-/

namespace CallTransfer.Text.Base64

/-! ### The standard -/

/-- The alphabet: a character stands for the number of its place. -/
def alphabet : List Char :=
  "ABCDEFGHIJKLMNOPQRSTUVWXYZabcdefghijklmnopqrstuvwxyz0123456789+/".toList

/-- So many of the lowest bits of a number, the highest of them first. -/
def bits : Nat → Nat → List Bool
  | 0, _ => []
  | width + 1, n => n.testBit width :: bits width n

/-- The bits of bytes in a row. -/
def bitsOfBytes (bytes : Bytes) : List Bool := bytes.flatMap fun b => bits 8 b.toNat

/-- The bits that characters stand for, in a row. -/
def bitsOfSymbols (symbols : List Char) : List Bool :=
  symbols.flatMap fun c => bits 6 (alphabet.idxOf c)

/-- How a text is put together that spells bytes. -/
structure IsLaidOut (bytes : Bytes) (symbols : List Char) (zeros pads : Nat) : Prop where
  known : symbols ⊆ alphabet
  bits : bitsOfSymbols symbols = bitsOfBytes bytes ++ List.replicate zeros false
  zeros_lt : zeros < 6
  pads_lt : pads < 4
  fours : (symbols.length + pads) % 4 = 0

/-- Whether a text spells bytes. -/
def Spells (text : List Char) (bytes : Bytes) : Prop :=
  ∃ symbols zeros pads, IsLaidOut bytes symbols zeros pads ∧
    text = symbols ++ List.replicate pads '='

/-! ### Bits -/

theorem length_bits (width n : Nat) : (bits width n).length = width := by
  induction width with
  | zero => rfl
  | succ width ih => rw [bits, List.length_cons, ih]

theorem testBit_of_bits {width m n : Nat} (h : bits width m = bits width n) :
    ∀ i < width, m.testBit i = n.testBit i := by
  induction width with
  | zero => nofun
  | succ width ih =>
    obtain ⟨hfirst, hrest⟩ := List.cons.inj h
    intro i hi
    rcases Nat.lt_succ_iff_lt_or_eq.mp hi with hi | rfl
    · exact ih hrest i hi
    · exact hfirst

/-- A number that is not too large is told by its bits. -/
theorem eq_of_bits {width m n : Nat} (h : bits width m = bits width n) (hm : m < 2 ^ width)
    (hn : n < 2 ^ width) : m = n := by
  refine Nat.eq_of_testBit_eq fun i => ?_
  rcases Nat.lt_or_ge i width with hi | hi
  · exact testBit_of_bits h i hi
  · have hpow : 2 ^ width ≤ 2 ^ i := Nat.pow_le_pow_right (by decide) hi
    rw [Nat.testBit_lt_two_pow (Nat.lt_of_lt_of_le hm hpow),
      Nat.testBit_lt_two_pow (Nat.lt_of_lt_of_le hn hpow)]

/-- Only the bits that are taken matter. -/
theorem bits_mod (width n : Nat) {k : Nat} (h : width ≤ k) :
    bits width (n % 2 ^ k) = bits width n := by
  induction width with
  | zero => rfl
  | succ width ih =>
    have hk : width < k := h
    rw [bits, bits, ih (Nat.le_of_lt hk), Nat.testBit_mod_two_pow, decide_eq_true hk, Bool.true_and]

/-- The bits of a number are those of what is above a place and those of what is below. -/
theorem bits_split (high low n : Nat) :
    bits (high + low) n = bits high (n / 2 ^ low) ++ bits low (n % 2 ^ low) := by
  rw [bits_mod low n (Nat.le_refl low)]
  induction high with
  | zero => rw [Nat.zero_add]; rfl
  | succ high ih =>
    rw [Nat.add_right_comm, bits, ih, bits, List.cons_append, Nat.testBit_div_two_pow,
      Nat.add_comm high low]

/-- A number that is put together has the bits of its parts. -/
theorem bits_join (high low m : Nat) {n : Nat} (h : n < 2 ^ low) :
    bits (high + low) (m * 2 ^ low + n) = bits high m ++ bits low n := by
  rw [bits_split, Nat.mul_comm, Nat.mul_add_div (Nat.two_pow_pos low), Nat.mul_add_mod,
    Nat.div_eq_of_lt h, Nat.mod_eq_of_lt h, Nat.add_zero]

/-- A number with nothing below a place has zeros there. -/
theorem bits_mul (high low m : Nat) :
    bits (high + low) (m * 2 ^ low) = bits high m ++ List.replicate low false := by
  have hzero : bits low 0 = List.replicate low false := by
    induction low with
    | zero => rfl
    | succ low ih => rw [bits, ih, Nat.zero_testBit, List.replicate_succ]
  rw [← Nat.add_zero (m * 2 ^ low), bits_join high low m (Nat.two_pow_pos low), hzero]

/-! ### The alphabet -/

theorem symbol_mem : ∀ n < 64, symbol n ∈ alphabet := by decide

theorem idxOf_symbol : ∀ n < 64, alphabet.idxOf (symbol n) = n := by decide

theorem idxOf_lt {c : Char} (h : c ∈ alphabet) : alphabet.idxOf c < 64 :=
  List.idxOf_lt_length_of_mem h

/-- A character is read as a number exactly if it is written for that. -/
theorem value?_eq_some_iff {c : Char} {n : Nat} : value? c = some n ↔ n < 64 ∧ c = symbol n := by
  constructor
  · intro h
    have hc {k : Nat} (hk : k = c.toNat) : c = Char.ofNat k := by rw [hk, Char.ofNat_toNat]
    simp only [value?] at h
    split at h
    · cases h
      refine ⟨by omega, ?_⟩
      rw [symbol, if_pos (by omega)]
      exact hc (by omega)
    split at h
    · cases h
      refine ⟨by omega, ?_⟩
      rw [symbol, if_neg (by omega), if_pos (by omega)]
      exact hc (by omega)
    split at h
    · cases h
      refine ⟨by omega, ?_⟩
      rw [symbol, if_neg (by omega), if_neg (by omega), if_pos (by omega)]
      exact hc (by omega)
    split at h
    · cases h
      exact ⟨by decide, by assumption⟩
    split at h
    · cases h
      exact ⟨by decide, by assumption⟩
    · cases h
  · rintro ⟨hn, rfl⟩
    exact value?_symbol n hn

/-! ### Reading -/

section Group
variable {i j k l : Nat}

/-- The first byte of a group is made of six bits and two. -/
theorem toNat_first (hi : i < 64) (hj : j < 64) :
    (UInt8.ofNat (i * 4 + j / 16)).toNat = i * 4 + j / 16 := by
  have hlt : i * 4 + j / 16 < 256 := by omega
  exact UInt8.toNat_ofNat_of_lt' hlt

/-- The second one is made of four bits and four. -/
theorem toNat_second (hk : k < 64) :
    (UInt8.ofNat (j % 16 * 16 + k / 4)).toNat = j % 16 * 16 + k / 4 := by
  have hlt : j % 16 * 16 + k / 4 < 256 := by omega
  exact UInt8.toNat_ofNat_of_lt' hlt

/-- The third one is made of two bits and six. -/
theorem toNat_third (hl : l < 64) :
    (UInt8.ofNat (k % 4 * 64 + l)).toNat = k % 4 * 64 + l := by
  have hlt : k % 4 * 64 + l < 256 := by omega
  exact UInt8.toNat_ofNat_of_lt' hlt

end Group

/-- What is read is what would be written. -/
theorem eq_encode_of_decode? {text : List Char} {bytes : Bytes} (h : decode? text = some bytes) :
    text = encode bytes := by
  fun_induction decode? text generalizing bytes with
  | case1 =>
    cases h
    rfl
  | case2 a b =>
    simp only [Option.bind_eq_bind, Option.bind_eq_some_iff, value?_eq_some_iff] at h
    obtain ⟨i, ⟨hi, rfl⟩, j, ⟨hj, rfl⟩, h⟩ := h
    split at h
    · cases h
      have h1 : (i * 4 + j / 16) / 4 = i := by omega
      have h2 : (i * 4 + j / 16) % 4 * 16 = j := by omega
      rw [encode, toNat_first hi hj, h1, h2]
    · cases h
  | case3 a b c =>
    simp only [Option.bind_eq_bind, Option.bind_eq_some_iff, value?_eq_some_iff] at h
    obtain ⟨i, ⟨hi, rfl⟩, j, ⟨hj, rfl⟩, k, ⟨hk, rfl⟩, h⟩ := h
    split at h
    · cases h
      have h1 : (i * 4 + j / 16) / 4 = i := by omega
      have h2 : (i * 4 + j / 16) % 4 * 16 + (j % 16 * 16 + k / 4) / 16 = j := by omega
      have h3 : (j % 16 * 16 + k / 4) % 16 * 4 = k := by omega
      rw [encode, toNat_first hi hj, toNat_second hk, h1, h2, h3]
    · cases h
  | case4 a b c d rest _ _ ih =>
    simp only [Option.bind_eq_bind, Option.bind_eq_some_iff, Option.pure_def, value?_eq_some_iff]
      at h
    obtain ⟨i, ⟨hi, rfl⟩, j, ⟨hj, rfl⟩, k, ⟨hk, rfl⟩, l, ⟨hl, rfl⟩, behind, hrest, ⟨⟩⟩ := h
    have h1 : (i * 4 + j / 16) / 4 = i := by omega
    have h2 : (i * 4 + j / 16) % 4 * 16 + (j % 16 * 16 + k / 4) / 16 = j := by omega
    have h3 : (j % 16 * 16 + k / 4) % 16 * 4 + (k % 4 * 64 + l) / 64 = k := by omega
    have h4 : (k % 4 * 64 + l) % 64 = l := by omega
    rw [encode, toNat_first hi hj, toNat_second hk, toNat_third hl, h1, h2, h3, h4, ih hrest]
  | case5 => cases h

/-- A text is read as bytes exactly if it is written for them. -/
theorem decode?_eq_some_iff {text : List Char} {bytes : Bytes} :
    decode? text = some bytes ↔ text = encode bytes :=
  ⟨eq_encode_of_decode?, fun h => h ▸ decode?_encode bytes⟩

/-! ### Writing -/

theorem bitsOfSymbols_nil : bitsOfSymbols [] = [] := rfl

theorem bitsOfSymbols_cons (c : Char) (symbols : List Char) :
    bitsOfSymbols (c :: symbols) = bits 6 (alphabet.idxOf c) ++ bitsOfSymbols symbols :=
  List.flatMap_cons ..

theorem bitsOfSymbols_symbol {n : Nat} (h : n < 64) (symbols : List Char) :
    bitsOfSymbols (symbol n :: symbols) = bits 6 n ++ bitsOfSymbols symbols := by
  rw [bitsOfSymbols_cons, idxOf_symbol n h]

theorem bitsOfBytes_nil : bitsOfBytes [] = [] := rfl

theorem bitsOfBytes_cons (b : UInt8) (bytes : Bytes) :
    bitsOfBytes (b :: bytes) = bits 8 b.toNat ++ bitsOfBytes bytes := List.flatMap_cons ..

section Group
variable (a b c : UInt8) (rest : List Bool)

/-- A character holds the bits of a byte but for the last two. -/
theorem bits_first : bits 6 (a.toNat / 4) ++ (bits 2 (a.toNat % 4) ++ rest) =
    bits 8 a.toNat ++ rest := by
  have hbyte : bits 8 a.toNat = bits 6 (a.toNat / 4) ++ bits 2 (a.toNat % 4) :=
    bits_split 6 2 a.toNat
  rw [hbyte, List.append_assoc]

/-- The next one holds these and the bits of another byte but for the last four. -/
theorem bits_second : bits 6 (a.toNat % 4 * 16 + b.toNat / 16) ++ (bits 4 (b.toNat % 16) ++ rest) =
    bits 2 (a.toNat % 4) ++ (bits 8 b.toNat ++ rest) := by
  have hb := b.toNat_lt
  have hbyte : bits 8 b.toNat = bits 4 (b.toNat / 16) ++ bits 4 (b.toNat % 16) :=
    bits_split 4 4 b.toNat
  have hsymbol : bits 6 (a.toNat % 4 * 16 + b.toNat / 16) =
      bits 2 (a.toNat % 4) ++ bits 4 (b.toNat / 16) := bits_join 2 4 _ (by omega)
  rw [hbyte, hsymbol, List.append_assoc, List.append_assoc]

/-- The two after that hold these and the bits of a third byte. -/
theorem bits_third : bits 6 (b.toNat % 16 * 4 + c.toNat / 64) ++ (bits 6 (c.toNat % 64) ++ rest) =
    bits 4 (b.toNat % 16) ++ (bits 8 c.toNat ++ rest) := by
  have hc := c.toNat_lt
  have hbyte : bits 8 c.toNat = bits 2 (c.toNat / 64) ++ bits 6 (c.toNat % 64) :=
    bits_split 2 6 c.toNat
  have hsymbol : bits 6 (b.toNat % 16 * 4 + c.toNat / 64) =
      bits 4 (b.toNat % 16) ++ bits 2 (c.toNat / 64) := bits_join 4 2 _ (by omega)
  rw [hbyte, hsymbol, List.append_assoc, List.append_assoc]

/-- One byte is two characters, with four bits to spare. -/
theorem isLaidOut_one : IsLaidOut [a]
    [symbol (a.toNat / 4), symbol (a.toNat % 4 * 16)] 4 2 := by
  have ha := a.toNat_lt
  have h1 : a.toNat / 4 < 64 := by omega
  have h2 : a.toNat % 4 * 16 < 64 := by omega
  have hlast : bits 6 (a.toNat % 4 * 16) = bits 2 (a.toNat % 4) ++ List.replicate 4 false :=
    bits_mul 2 4 _
  refine ⟨?_, ?_, by decide, by decide, by simp⟩
  · exact List.cons_subset.mpr ⟨symbol_mem _ h1, List.cons_subset.mpr ⟨symbol_mem _ h2,
      List.nil_subset _⟩⟩
  · rw [bitsOfSymbols_symbol h1, bitsOfSymbols_symbol h2, bitsOfSymbols_nil, bitsOfBytes_cons,
      bitsOfBytes_nil, List.append_nil, List.append_nil, hlast, bits_first]

/-- Two bytes are three characters, with two bits to spare. -/
theorem isLaidOut_two : IsLaidOut [a, b] [symbol (a.toNat / 4),
    symbol (a.toNat % 4 * 16 + b.toNat / 16), symbol (b.toNat % 16 * 4)] 2 1 := by
  have ha := a.toNat_lt
  have hb := b.toNat_lt
  have h1 : a.toNat / 4 < 64 := by omega
  have h2 : a.toNat % 4 * 16 + b.toNat / 16 < 64 := by omega
  have h3 : b.toNat % 16 * 4 < 64 := by omega
  have hlast : bits 6 (b.toNat % 16 * 4) = bits 4 (b.toNat % 16) ++ List.replicate 2 false :=
    bits_mul 4 2 _
  refine ⟨?_, ?_, by decide, by decide, by simp⟩
  · exact List.cons_subset.mpr ⟨symbol_mem _ h1, List.cons_subset.mpr ⟨symbol_mem _ h2,
      List.cons_subset.mpr ⟨symbol_mem _ h3, List.nil_subset _⟩⟩⟩
  · rw [bitsOfSymbols_symbol h1, bitsOfSymbols_symbol h2, bitsOfSymbols_symbol h3,
      bitsOfSymbols_nil, bitsOfBytes_cons, bitsOfBytes_cons, bitsOfBytes_nil, List.append_nil,
      List.append_nil, hlast, bits_second, bits_first, List.append_assoc]

variable {a b c} {bytes : Bytes} {symbols : List Char} {zeros pads : Nat}

/-- Three bytes are four characters, in front of any others. -/
theorem IsLaidOut.three (h : IsLaidOut bytes symbols zeros pads) : IsLaidOut (a :: b :: c :: bytes)
    (symbol (a.toNat / 4) :: symbol (a.toNat % 4 * 16 + b.toNat / 16) ::
      symbol (b.toNat % 16 * 4 + c.toNat / 64) :: symbol (c.toNat % 64) :: symbols) zeros pads := by
  have ha := a.toNat_lt
  have hb := b.toNat_lt
  have hc := c.toNat_lt
  have h1 : a.toNat / 4 < 64 := by omega
  have h2 : a.toNat % 4 * 16 + b.toNat / 16 < 64 := by omega
  have h3 : b.toNat % 16 * 4 + c.toNat / 64 < 64 := by omega
  have h4 : c.toNat % 64 < 64 := by omega
  refine ⟨?_, ?_, h.zeros_lt, h.pads_lt, ?_⟩
  · exact List.cons_subset.mpr ⟨symbol_mem _ h1, List.cons_subset.mpr ⟨symbol_mem _ h2,
      List.cons_subset.mpr ⟨symbol_mem _ h3, List.cons_subset.mpr ⟨symbol_mem _ h4, h.known⟩⟩⟩⟩
  · rw [bitsOfSymbols_symbol h1, bitsOfSymbols_symbol h2, bitsOfSymbols_symbol h3,
      bitsOfSymbols_symbol h4, h.bits, bits_third, bits_second, bits_first, bitsOfBytes_cons,
      bitsOfBytes_cons, bitsOfBytes_cons, List.append_assoc, List.append_assoc,
      List.append_assoc]
  · have hfours := h.fours
    simp only [List.length_cons]
    omega

end Group

/-- What is written for bytes spells them. -/
theorem spells_encode (bytes : Bytes) : Spells (encode bytes) bytes := by
  fun_induction encode bytes with
  | case1 => exact ⟨[], 0, 0, ⟨List.nil_subset _, rfl, by decide, by decide, rfl⟩, rfl⟩
  | case2 a => exact ⟨_, _, _, isLaidOut_one a, rfl⟩
  | case3 a b => exact ⟨_, _, _, isLaidOut_two a b, rfl⟩
  | case4 a b c rest ih =>
    obtain ⟨symbols, zeros, pads, h, htext⟩ := ih
    exact ⟨_, _, _, h.three, by rw [htext]; rfl⟩

/-! ### One spelling only -/

theorem length_bitsOfBytes (bytes : Bytes) : (bitsOfBytes bytes).length = 8 * bytes.length := by
  induction bytes with
  | nil => rfl
  | cons b bytes ih =>
    rw [bitsOfBytes_cons, List.length_append, length_bits, ih, List.length_cons]
    omega

theorem length_bitsOfSymbols (symbols : List Char) :
    (bitsOfSymbols symbols).length = 6 * symbols.length := by
  induction symbols with
  | nil => rfl
  | cons c symbols ih =>
    rw [bitsOfSymbols_cons, List.length_append, length_bits, ih, List.length_cons]
    omega

/-- Characters of the alphabet are told by the bits that they stand for. -/
theorem eq_of_bitsOfSymbols {symbols others : List Char} (hs : symbols ⊆ alphabet)
    (ho : others ⊆ alphabet) (h : bitsOfSymbols symbols = bitsOfSymbols others) :
    symbols = others := by
  have hlength := congrArg List.length h
  rw [length_bitsOfSymbols, length_bitsOfSymbols] at hlength
  induction symbols generalizing others with
  | nil =>
    rw [List.length_nil] at hlength
    exact (List.eq_nil_of_length_eq_zero (by omega)).symm
  | cons c symbols ih =>
    cases others with
    | nil => cases hlength
    | cons d others =>
      obtain ⟨hc, hs⟩ := List.cons_subset.mp hs
      obtain ⟨hd, ho⟩ := List.cons_subset.mp ho
      rw [bitsOfSymbols_cons, bitsOfSymbols_cons] at h
      obtain ⟨hfirst, hrest⟩ := List.append_inj h (by rw [length_bits, length_bits])
      have hplace := eq_of_bits hfirst (idxOf_lt hc) (idxOf_lt hd)
      rw [List.length_cons, List.length_cons] at hlength
      rw [(List.idxOf_inj hc).mp hplace, ih hs ho hrest (by omega)]

/-- Bytes are laid out in one way. -/
theorem IsLaidOut.unique {bytes : Bytes} {symbols others : List Char}
    {zeros otherZeros pads otherPads : Nat} (h : IsLaidOut bytes symbols zeros pads)
    (ho : IsLaidOut bytes others otherZeros otherPads) : symbols = others ∧ pads = otherPads := by
  have hlength := congrArg List.length h.bits
  have holength := congrArg List.length ho.bits
  rw [length_bitsOfSymbols, List.length_append, length_bitsOfBytes, List.length_replicate]
    at hlength holength
  have hzeros := h.zeros_lt
  have hozeros := ho.zeros_lt
  have hbits := h.bits
  have hsame : zeros = otherZeros := by omega
  rw [hsame, ← ho.bits] at hbits
  have heq := eq_of_bitsOfSymbols h.known ho.known hbits
  subst heq
  have hpads := h.pads_lt
  have hopads := ho.pads_lt
  have hfours := h.fours
  have hofours := ho.fours
  exact ⟨rfl, by omega⟩

/-- A text SPELLS bytes exactly if it is written for them. -/
theorem spells_iff {text : List Char} {bytes : Bytes} :
    Spells text bytes ↔ text = encode bytes := by
  constructor
  · rintro ⟨symbols, zeros, pads, h, rfl⟩
    obtain ⟨others, otherZeros, otherPads, ho, htext⟩ := spells_encode bytes
    obtain ⟨rfl, rfl⟩ := h.unique ho
    exact htext.symm
  · rintro rfl
    exact spells_encode bytes

/-- What is written are characters of the alphabet and padding. -/
theorem mem_encode {bytes : Bytes} {c : Char} (h : c ∈ encode bytes) : c ∈ alphabet ∨ c = '=' := by
  obtain ⟨symbols, zeros, pads, ho, htext⟩ := spells_encode bytes
  rw [htext] at h
  rcases List.mem_append.mp h with h | h
  · exact Or.inl (ho.known h)
  · exact Or.inr (List.eq_of_mem_replicate h)

end CallTransfer.Text.Base64
