/-!
    Lower case, as far as names made of ASCII letters can see it. Besides the capitals A to Z only
    the Kelvin sign has an ASCII letter for its lower case; every other character is kept, because
    neither it nor its lower case can occur in such a name.
-/

namespace CallTransfer.Text

/-- The lower case of one character. -/
def lowerChar (c : Char) : Char := if c = '\u212A' then 'k' else c.toLower

/-- The lower case of a text. -/
def lower (s : List Char) : List Char := s.map lowerChar

/-- ASCII's lower case keeps all that it does not turn into a small letter. -/
theorem toLower_cases (c : Char) : c.toLower = c ∨ ('a' ≤ c.toLower ∧ c.toLower ≤ 'z') := by
  by_cases h : 'A'.val ≤ c.val ∧ c.val ≤ 'Z'.val
  · have hall : ∀ n < 91, 65 ≤ n → 'a' ≤ (Char.ofNat n).toLower ∧ (Char.ofNat n).toLower ≤ 'z' := by
      decide
    have hz : c.toNat < 91 := Nat.lt_succ_of_le (UInt32.le_iff_toNat_le.mp h.2)
    have ha : 65 ≤ c.toNat := UInt32.le_iff_toNat_le.mp h.1
    have hc := hall c.toNat hz ha
    rw [Char.ofNat_toNat] at hc
    exact Or.inr hc
  · exact Or.inl (dif_neg h)

/-- Where ASCII's lower case is ASCII, it is the lower case. -/
theorem lowerChar_of_toLower {c : Char} (h : c.toLower.toNat < 0x80) : lowerChar c = c.toLower := by
  refine if_neg ?_
  rintro rfl
  exact absurd h (by decide)

end CallTransfer.Text
