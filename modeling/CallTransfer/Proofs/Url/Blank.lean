import CallTransfer.Check
import CallTransfer.Proofs.Idna.Blank
import CallTransfer.Url.Parser

/-!
    Blanks in authorities. A blank at the end of a URL is left out, but one that gets INTO the
    authority, because more text follows it, is left in the host or in the port, and neither may
    hold it: there is no such authority.
-/

namespace CallTransfer.Url

variable {c : Char}

/-! ### Hosts -/

theorem value?_of_le (hc : c.toNat ≤ 0x20) : Text.Hex.value? c = none := by
  unfold Text.Hex.value?
  simp only
  repeat rw [if_neg (by omega)]

theorem encodeChar_of_le (hc : c.toNat ≤ 0x20) :
    String.utf8EncodeChar c = [UInt8.ofNat c.toNat] :=
  Text.Utf8.encodeChar_of_le (Nat.le_trans hc (by decide))

/-- A blank is no part of a percent-encoded byte, so it stands for itself. -/
theorem mem_decode (hc : c.toNat ≤ 0x20) {s : List Char} (h : c ∈ s) :
    UInt8.ofNat c.toNat ∈ Percent.decode s := by
  have hp : c ≠ '%' := by
    rintro rfl
    exact absurd hc (by decide)
  fun_induction Percent.decode s with
  | case1 => cases h
  | case2 a b s hi lo hlo hhi ih =>
    have hn : ∀ d, Text.Hex.value? d ≠ none → c ≠ d := by
      rintro _ hd rfl
      exact hd (value?_of_le hc)
    have ha := hn a (by rw [hhi]; nofun)
    have hb := hn b (by rw [hlo]; nofun)
    simp only [List.mem_cons, hp, ha, hb, false_or] at h
    exact List.mem_cons_of_mem _ (ih h)
  | case3 a b s hn ih =>
    simp only [List.mem_cons, hp, false_or] at h
    exact List.mem_cons_of_mem _ (ih (by simpa using h))
  | case4 d s hd ih =>
    rcases List.mem_cons.mp h with rfl | h
    · rw [encodeChar_of_le hc]
      exact List.mem_append_left _ (List.mem_singleton_self _)
    · exact List.mem_append_right _ (ih h)

/-- A byte of ASCII is the byte of one character only. -/
theorem mem_of_mem_encode (hc : c.toNat ≤ 0x20) {s : String}
    (h : UInt8.ofNat c.toNat ∈ Text.Utf8.encode s) : c ∈ s.toList := by
  obtain ⟨d, hd, hm⟩ := List.mem_flatMap.mp h
  have hv : (UInt8.ofNat c.toNat).toNat = c.toNat := by
    rw [UInt8.toNat_ofNat']
    omega
  by_cases hl : d.toNat ≤ 0x7F
  · rw [Text.Utf8.encodeChar_of_le hl, List.mem_singleton] at hm
    have he := congrArg UInt8.toNat hm
    rw [hv, UInt8.toNat_ofNat', Nat.mod_eq_of_lt (by omega)] at he
    rwa [Char.toNat_inj.mp he]
  · have hb := Text.Utf8.le_of_mem_encodeChar (Nat.not_le.mp hl) hm
    omega

/-- A blank is in no domain name, in percent-encoding or not. -/
theorem domainName?_eq_none (hc : c.toNat ≤ 0x20) {s : List Char} (h : c ∈ s) :
    Host.domainName? s = none := by
  refine Option.bind_eq_none_iff.mpr fun text ht => ?_
  have hb := mem_decode hc h
  rw [Text.Utf8.decode?_eq_some_iff.mp ht] at hb
  exact Idna.toAscii?_eq_none_of_mem hc (mem_of_mem_encode hc hb)

/-- No host ends in a blank. -/
theorem ofSpecial_concat (hc : c.toNat ≤ 0x20) (s : List Char) :
    ∃ fault, Host.ofSpecial (s ++ [c]) = .error fault := by
  unfold Host.ofSpecial
  split
  · rename_i t ht
    -- in brackets the blank stands where the closing bracket should
    have hn : t.getLast? ≠ some ']' := by
      intro hl
      obtain ⟨front, rfl⟩ := List.getLast?_eq_some_iff.mp hl
      have he : s ++ [c] = ('[' :: front) ++ [']'] := ht
      have hb : c = ']' := List.singleton_inj.mp (List.append_inj' he rfl).2
      rw [hb] at hc
      exact absurd hc (by decide)
    exact ⟨.ipv6, if_neg hn⟩
  · rw [domainName?_eq_none hc (List.mem_append_right s (List.mem_singleton_self c))]
    exact ⟨_, rfl⟩

/-! ### Authorities -/

/-- What stands behind the last at sign ends as the text does. -/
theorem splitUser_concat (hc : c ≠ '@') (s : List Char) :
    ∃ user place, splitUser (s ++ [c]) = (user, place ++ [c]) := by
  have hb : ((s ++ [c]).reverse.takeWhile (· != '@')).reverse =
      (s.reverse.takeWhile (· != '@')).reverse ++ [c] := by
    have hn : (c != '@') = true := bne_iff_ne.mpr hc
    rw [List.reverse_append, List.reverse_singleton, List.singleton_append, List.takeWhile_cons, hn]
    exact List.reverse_cons
  unfold splitUser
  simp only [hb]
  split
  · exact ⟨none, s, rfl⟩
  · exact ⟨_, _, rfl⟩

/-- The last character of host and port is the last one of the port or, without a port, of the
    host. -/
theorem splitPort_concat (hc : c ≠ ':') (inBrackets : Bool) (s : List Char) :
    (∃ host, splitPort inBrackets (s ++ [c]) = (host ++ [c], none)) ∨
      ∃ host port, splitPort inBrackets (s ++ [c]) = (host, some (port ++ [c])) := by
  induction s generalizing inBrackets with
  | nil =>
    refine Or.inl ⟨[], ?_⟩
    have hn : (c == ':' && !inBrackets) = false := by
      rw [beq_false_of_ne hc, Bool.false_and]
    simp only [List.nil_append, splitPort, hn]
    rfl
  | cons d s ih =>
    rw [List.cons_append, splitPort]
    split
    · exact Or.inr ⟨[], s, rfl⟩
    · rcases ih (if d == '[' then true else if d == ']' then false else inBrackets) with
        ⟨host, h⟩ | ⟨host, port, h⟩
      · exact Or.inl ⟨d :: host, by simp only [h, List.cons_append]⟩
      · exact Or.inr ⟨d :: host, port, by simp only [h]⟩

/-- No port ends in a blank. -/
theorem readPort_concat (hc : c.toNat ≤ 0x20) (default : Option Nat) (s : List Char) :
    readPort default (s ++ [c]) = .error .port := by
  have hn : Numeral.isDigit c = false := by
    simp only [Numeral.isDigit, Bool.and_eq_false_iff, decide_eq_false_iff_not, Char.not_le]
    exact Or.inl (Nat.lt_of_le_of_lt hc (by decide))
  rw [readPort, if_pos (by simp [hn])]

/-- NO BLANK: no authority ends in a control character or a space. -/
theorem readAuthority_concat (hc : c.toNat ≤ 0x20) (default : Option Nat) (s : List Char)
    (authority : Authority) : readAuthority default (s ++ [c]) ≠ .ok authority := by
  have hn : c ≠ '@' ∧ c ≠ ':' := by
    constructor <;> (rintro rfl; exact absurd hc (by decide))
  obtain ⟨user, place, hu⟩ := splitUser_concat hn.1 s
  intro h
  rcases splitPort_concat hn.2 false place with ⟨host, hp⟩ | ⟨host, port, hp⟩
  · obtain ⟨fault, hf⟩ := ofSpecial_concat hc host
    unfold readAuthority at h
    simp only [hu, hp, hf] at h
    split at h <;> cases h
  · unfold readAuthority at h
    simp only [hu, hp, Option.getD_some, readPort_concat hc] at h
    split at h
    · cases h
    · cases hh : Host.ofSpecial host <;> rw [hh] at h <;> cases h

end CallTransfer.Url
