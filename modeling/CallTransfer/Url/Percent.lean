import CallTransfer.Text.Hex

/-!
    Percent-encoding. Each part of a URL has its own set of characters that are written as the bytes
    of their UTF-8 form, every byte by a percent sign and two capital digits; a percent sign itself
    is never in a set, so what is encoded already stays as it is.
-/

namespace CallTransfer.Url.Percent

/-- A character by its bytes. -/
def encodeChar (c : Char) : List Char :=
  (String.utf8EncodeChar c).flatMap fun b =>
    ['%', Text.Hex.upper (b.toNat / 16), Text.Hex.upper (b.toNat % 16)]

/-- A text with the characters of a set encoded. -/
def encode (set : Char → Bool) (s : List Char) : List Char :=
  s.flatMap fun c => if set c then encodeChar c else [c]

/-- The bytes that a text stands for. -/
def decode : List Char → Bytes
  | [] => []
  | '%' :: a :: b :: s =>
    match Text.Hex.value? a, Text.Hex.value? b with
    | some hi, some lo => UInt8.ofNat (16 * hi + lo) :: decode s
    | _, _ => 0x25 :: decode (a :: b :: s)
  | c :: s => String.utf8EncodeChar c ++ decode s

/-- Control characters and everything beyond ASCII. -/
def control (c : Char) : Bool := c.toNat < 0x20 || 0x7E < c.toNat

/-- The set of fragments. -/
def fragment (c : Char) : Bool := control c || " \"<>\x60".toList.contains c

/-- The set of queries. -/
def query (c : Char) : Bool := control c || " \"#<>".toList.contains c

/-- The set of queries where the scheme is special. -/
def specialQuery (c : Char) : Bool := query c || c == '\''

/-- The set of paths. -/
def path (c : Char) : Bool := fragment c || "#?\x7b\x7d".toList.contains c

/-- The set of user names and passwords. -/
def userinfo (c : Char) : Bool := path c || "/:;=@[\\]^|".toList.contains c

theorem encode_append (set : Char → Bool) (s t : List Char) :
    encode set (s ++ t) = encode set s ++ encode set t :=
  List.flatMap_append

/-- An encoded byte is read in front of what follows. -/
theorem decode_byte (b : UInt8) (s : List Char) :
    decode ('%' :: Text.Hex.upper (b.toNat / 16) :: Text.Hex.upper (b.toNat % 16) :: s) =
      b :: decode s := by
  have hb := b.toNat_lt
  rw [decode, Text.Hex.value?_upper _ (by omega), Text.Hex.value?_upper _ (by omega)]
  simp only [Text.Hex.ofNat_halves]

/-- An encoded character is read in front of what follows. -/
theorem decode_encodeChar (c : Char) (s : List Char) :
    decode (encodeChar c ++ s) = String.utf8EncodeChar c ++ decode s := by
  unfold encodeChar
  induction String.utf8EncodeChar c with
  | nil => rfl
  | cons b bs ih => simp [decode_byte, ih]

/-- Any character but a percent sign stands for its own bytes. -/
theorem decode_cons {c : Char} (h : c ≠ '%') (s : List Char) :
    decode (c :: s) = String.utf8EncodeChar c ++ decode s := by
  rw [decode]
  rintro _ _ _ rfl
  exact absurd rfl h

/-- What is encoded stands for the bytes of the text, if that holds no percent sign itself. -/
theorem decode_encode (set : Char → Bool) {s : List Char} (h : '%' ∉ s) :
    decode (encode set s) = s.flatMap String.utf8EncodeChar := by
  induction s with
  | nil => rfl
  | cons c s ih =>
    have hc : c ≠ '%' := fun e => h (by simp [e])
    have hs := ih fun m => h (List.mem_cons_of_mem c m)
    rw [encode] at hs
    rw [encode, List.flatMap_cons, List.flatMap_cons, ← hs]
    split
    · rw [decode_encodeChar]
    · rw [List.singleton_append, decode_cons hc]

end CallTransfer.Url.Percent
