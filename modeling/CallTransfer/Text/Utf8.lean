/-!
    Text on the wire. Bytes are scanned into characters one at a time; a byte sequence that begins
    no character contributes one `none` for its longest part that could still have become one.
    STRICT reading refuses a text with a `none` in it, LENIENT reading writes U+FFFD there, and a
    reader that only skips text may pass over it.
-/

namespace CallTransfer

/-- A byte string. -/
abbrev Bytes := List UInt8

namespace Text.Utf8

/-- Characters as they were found in bytes, with `none` for a part that is no character. -/
abbrev Scanned := List (Option Char)

/-- The bytes of a text. -/
def encode (s : String) : Bytes := s.toList.flatMap String.utf8EncodeChar

/-- The character that starts a byte string, if one does. -/
def head? (bs : Bytes) : Option Char := (bs.take 4).toByteArray.utf8DecodeChar? 0

/-- A byte that continues a character. -/
def isTail (b : UInt8) : Bool := 0x80 ≤ b && b ≤ 0xBF

/-- Whether `b` may stand second after the lead `a` of a character of three or four bytes. -/
def isSecond (a b : UInt8) : Bool :=
  if a == 0xE0 then 0xA0 ≤ b && b ≤ 0xBF
  else if a == 0xED then 0x80 ≤ b && b ≤ 0x9F
  else if a == 0xF0 then 0x90 ≤ b && b ≤ 0xBF
  else if a == 0xF4 then 0x80 ≤ b && b ≤ 0x8F
  else 0xE1 ≤ a && a ≤ 0xF3 && isTail b

/-- How many bytes belong to the broken start of a character. -/
def strayLength : Bytes → Nat
  | a :: b :: c :: _ => if isSecond a b then (if 0xF0 ≤ a && isTail c then 3 else 2) else 1
  | [a, b] => if isSecond a b then 2 else 1
  | _ => 1

/-- All characters of a byte string, in order, behind bytes that belong to the one before. -/
def scanBehind : Nat → Bytes → Scanned
  | _, [] => []
  | n + 1, _ :: rest => scanBehind n rest
  | 0, b :: rest =>
    match head? (b :: rest) with
    | some c => some c :: scanBehind (c.utf8Size - 1) rest
    | none => none :: scanBehind (strayLength (b :: rest) - 1) rest

/-- All characters of a byte string, in order. -/
def scan (bs : Bytes) : Scanned := scanBehind 0 bs

/-- The text that bytes spell, unless a part of them is no character. -/
def decode? (bs : Bytes) : Option String := ((scan bs).mapM id).map String.ofList

/-- The text that bytes spell, with U+FFFD for every part that is no character. -/
def decodeLossy (bs : Bytes) : String := String.ofList ((scan bs).map (·.getD '\uFFFD'))

/-! ### Reading back -/

/-- The bytes of a character start that character, whatever follows. -/
theorem head?_encodeChar (c : Char) (bs : Bytes) :
    head? (String.utf8EncodeChar c ++ bs) = some c := by
  have h : (String.utf8EncodeChar c).length ≤ 4 := by
    rw [String.length_utf8EncodeChar]
    exact c.utf8Size_le_four
  rw [head?, List.take_append, List.take_of_length_le h, List.toByteArray_append]
  exact ByteArray.utf8DecodeChar?_utf8EncodeChar_append

/-- Bytes that belong to the character before are passed over. -/
theorem scanBehind_append (as bs : Bytes) : scanBehind as.length (as ++ bs) = scan bs := by
  induction as with
  | nil => rfl
  | cons a as ih => exact ih

/-- A character is found in front of what is found behind its bytes. -/
theorem scan_encodeChar (c : Char) (bs : Bytes) :
    scan (String.utf8EncodeChar c ++ bs) = some c :: scan bs := by
  have hl := String.length_utf8EncodeChar c
  have hh := head?_encodeChar c bs
  cases h : String.utf8EncodeChar c with
  | nil =>
    have := c.utf8Size_pos
    simp [h] at hl
    omega
  | cons b rest =>
    rw [h] at hl hh
    have hr : c.utf8Size - 1 = rest.length := by
      simp at hl
      omega
    rw [List.cons_append] at hh ⊢
    simp only [scan, scanBehind, hh, hr, scanBehind_append]

/-- The characters of a text are found in its bytes. -/
theorem scan_encode (s : String) : scan (encode s) = s.toList.map some := by
  unfold encode
  induction s.toList with
  | nil => rfl
  | cons c cs ih => rw [List.flatMap_cons, scan_encodeChar, ih, List.map_cons]

/-- Characters that were all found are those that are found. -/
theorem mapM_id_eq_some_iff {found : Scanned} {cs : List Char} :
    found.mapM id = some cs ↔ found = cs.map some := by
  induction found generalizing cs with
  | nil => cases cs <;> simp
  | cons o found ih =>
    simp only [List.mapM_cons, id, Option.bind_eq_bind, Option.bind_eq_some_iff, Option.pure_def,
      ih]
    constructor
    · rintro ⟨c, rfl, rest, rfl, ⟨⟩⟩
      rfl
    · intro h
      cases cs with
      | nil => cases h
      | cons c cs =>
        obtain ⟨rfl, rfl⟩ := List.cons.inj h
        exact ⟨c, rfl, cs, rfl, rfl⟩

/-- A text reads back from its bytes. -/
theorem decode?_encode (s : String) : decode? (encode s) = some s := by
  rw [decode?, mapM_id_eq_some_iff.mpr (scan_encode s), Option.map_some, String.ofList_toList]

/-- The character that starts a byte string is there with all its bytes. -/
theorem eq_append_of_head? {bs : Bytes} {c : Char} (h : head? bs = some c) :
    ∃ rest, bs = String.utf8EncodeChar c ++ rest := by
  have hb := String.toByteArray_utf8EncodeChar_of_utf8DecodeChar?_eq_some h
  have hp : String.utf8EncodeChar c = (bs.take 4).take c.utf8Size := by
    apply List.toByteArray_inj.mp
    rw [hb]
    ext1
    simp
  obtain ⟨rest, hr⟩ := hp ▸ (List.take_prefix c.utf8Size (bs.take 4)).trans (List.take_prefix 4 bs)
  exact ⟨rest, hr.symm⟩

/-- Where all characters of a byte string are found, their bytes are all that it holds. -/
theorem flatMap_of_scan {bs : Bytes} {cs : List Char} (h : scan bs = cs.map some) :
    cs.flatMap String.utf8EncodeChar = bs := by
  induction cs generalizing bs with
  | nil =>
    cases bs with
    | nil => rfl
    | cons b bs =>
      simp only [scan, scanBehind] at h
      split at h <;> cases h
  | cons c cs ih =>
    cases bs with
    | nil => cases h
    | cons b bs =>
      cases hh : head? (b :: bs) with
      | none =>
        simp only [scan, scanBehind, hh] at h
        cases h
      | some d =>
        obtain ⟨rest, hr⟩ := eq_append_of_head? hh
        rw [hr, scan_encodeChar, List.map_cons] at h
        obtain ⟨hd, ht⟩ := List.cons.inj h
        rw [hr, List.flatMap_cons, ih ht, Option.some.inj hd]

/-- Only the bytes of a text read as that text. -/
theorem decode?_eq_some_iff {bs : Bytes} {s : String} : decode? bs = some s ↔ bs = encode s := by
  constructor
  · intro h
    obtain ⟨cs, hm, rfl⟩ := Option.map_eq_some_iff.mp h
    rw [encode, String.toList_ofList, flatMap_of_scan (mapM_id_eq_some_iff.mp hm)]
  · rintro rfl
    exact decode?_encode s

/-! ### Bytes of characters -/

/-- The bytes of texts in a row are those of the one before those of the other. -/
theorem encode_append (s t : String) : encode (s ++ t) = encode s ++ encode t := by
  rw [encode, encode, encode, String.toList_append, List.flatMap_append]

/-- A character of ASCII is one byte. -/
theorem encodeChar_of_le {c : Char} (h : c.toNat ≤ 0x7F) :
    String.utf8EncodeChar c = [UInt8.ofNat c.toNat] := if_pos h

/-- The bytes of any other character are none of ASCII. -/
theorem le_of_mem_encodeChar {c : Char} (h : 0x7F < c.toNat) {b : UInt8}
    (hb : b ∈ String.utf8EncodeChar c) : 0x80 ≤ b.toNat := by
  have hc : ¬ c.val.toNat ≤ 0x7F := Nat.not_le.mpr h
  simp only [String.utf8EncodeChar, if_neg hc] at hb
  split at hb
  · simp only [List.mem_cons, List.not_mem_nil, or_false] at hb
    rcases hb with rfl | rfl <;> simp only [UInt8.toNat_ofNat'] <;> omega
  · split at hb
    · simp only [List.mem_cons, List.not_mem_nil, or_false] at hb
      rcases hb with rfl | rfl | rfl <;> simp only [UInt8.toNat_ofNat'] <;> omega
    · simp only [List.mem_cons, List.not_mem_nil, or_false] at hb
      rcases hb with rfl | rfl | rfl | rfl <;> simp only [UInt8.toNat_ofNat'] <;> omega

end Text.Utf8

end CallTransfer
