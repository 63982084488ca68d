import CallTransfer.Json.Writer
import CallTransfer.Proofs.Json.Grammar

/-!
    Strings are read exactly as they are SPELLED. A reader cuts a string into pieces first and joins
    these afterwards, and so do both halves here: what is cut is what stands before the first quote
    that is not escaped, and what pieces are joined to is what that spells.
-/

namespace CallTransfer.Json

open Text.Utf8 (Scanned)

/-- The pieces that a text is cut into. -/
inductive IsCut : List Char → List Piece → Prop
  | nil : IsCut [] []
  | plain (hq : c ≠ '"') (hb : c ≠ '\\') (hc : 0x20 ≤ c.toNat) (h : IsCut t ps) :
      IsCut (c :: t) (.char c :: ps)
  | letter (he : unescape? e = some c) (h : IsCut t ps) : IsCut ('\\' :: e :: t) (.char c :: ps)
  | unit (hu : unit? (some x₁) (some x₂) (some x₃) (some x₄) = some n) (h : IsCut t ps) :
      IsCut ('\\' :: 'u' :: x₁ :: x₂ :: x₃ :: x₄ :: t) (.unit n :: ps)

/-! ### Cutting -/

/-- A unit is made of characters. -/
theorem exists_of_unit? {a b c d : Option Char} {n : Nat} (h : unit? a b c d = some n) :
    ∃ x₁ x₂ x₃ x₄, a = some x₁ ∧ b = some x₂ ∧ c = some x₃ ∧ d = some x₄ := by
  unfold unit? at h
  simp only [Option.bind_eq_bind, Option.bind_eq_some_iff] at h
  obtain ⟨_, ⟨x₁, ha, _⟩, _, ⟨x₂, hb, _⟩, _, ⟨x₃, hc, _⟩, _, ⟨x₄, hd, _⟩, _⟩ := h
  exact ⟨x₁, x₂, x₃, x₄, ha, hb, hc, hd⟩

/-- What is cut off the front of a text stands before a quote, if no byte in it is astray. -/
theorem isCut_of_pieces {s rest : Scanned} {ps : List Piece} (h : pieces s = some (ps, rest))
    (hn : .stray ∉ ps) : ∃ t, s = t.map some ++ some '"' :: rest ∧ IsCut t ps := by
  fun_induction pieces s generalizing ps with
  | case1 => cases h
  | case2 s ih =>
    obtain ⟨_, -, he⟩ := Option.map_eq_some_iff.mp h
    cases he
    exact absurd List.mem_cons_self hn
  | case3 s =>
    cases h
    exact ⟨[], rfl, .nil⟩
  | case4 a b c d s ih =>
    simp only [Option.bind_eq_bind, Option.bind_eq_some_iff] at h
    obtain ⟨n, hu, ⟨qs, rest⟩, hs, he⟩ := h
    cases he
    obtain ⟨t, rfl, ht⟩ := ih hs (mt (List.mem_cons_of_mem _) hn)
    obtain ⟨x₁, x₂, x₃, x₄, rfl, rfl, rfl, rfl⟩ := exists_of_unit? hu
    exact ⟨_ :: _ :: _ :: _ :: _ :: _ :: t, rfl, .unit hu ht⟩
  | case5 e s hu ih =>
    simp only [Option.bind_eq_bind, Option.bind_eq_some_iff] at h
    obtain ⟨c, he, ⟨qs, rest⟩, hs, heq⟩ := h
    cases heq
    obtain ⟨t, rfl, ht⟩ := ih hs (mt (List.mem_cons_of_mem _) hn)
    exact ⟨_ :: _ :: t, rfl, .letter he ht⟩
  | case6 c s hc => cases h
  | case7 c s hq _ _ hc ih =>
    obtain ⟨⟨qs, rest⟩, hs, he⟩ := Option.map_eq_some_iff.mp h
    cases he
    obtain ⟨t, rfl, ht⟩ := ih hs (mt (List.mem_cons_of_mem _) hn)
    obtain ⟨hb, hc⟩ := not_or.mp hc
    exact ⟨c :: t, rfl, .plain hq hb (Nat.le_of_not_lt hc) ht⟩

/-- What stands before a quote is cut off the front of a text. -/
theorem pieces_of_isCut {t : List Char} {ps : List Piece} (h : IsCut t ps) (rest : Scanned) :
    pieces (t.map some ++ some '"' :: rest) = some (ps, rest) := by
  induction h with
  | nil => rfl
  | @plain c t ps hq hb hc _ ih =>
    rw [List.map_cons, List.cons_append, pieces, ih]
    · rw [if_neg (not_or.mpr ⟨hb, Nat.not_lt.mpr hc⟩)]
      rfl
    · exact hq
    · exact fun _ _ _ _ _ _ => hb
    · exact fun _ _ _ => hb
  | @letter e c t ps he _ ih =>
    have hu : e ≠ 'u' := by
      rintro rfl
      cases he
    rw [List.map_cons, List.map_cons, List.cons_append, List.cons_append, pieces, he, ih]
    · rfl
    · exact fun _ _ _ _ _ _ => hu
  | unit hu _ ih =>
    simp only [List.map_cons, List.cons_append, pieces, hu, ih]
    rfl

/-! ### Joining -/

/-- What pieces are joined to. -/
inductive Joins : List Piece → List Char → Prop
  | nil : Joins [] []
  | char (h : Joins ps cs) : Joins (.char c :: ps) (c :: cs)
  | unit (hh : isHigh n = false) (hl : isLow n = false) (h : Joins ps cs) :
      Joins (.unit n :: ps) (Char.ofNat n :: cs)
  | pair (hh : isHigh high = true) (hl : isLow low = true) (h : Joins ps cs) :
      Joins (.unit high :: .unit low :: ps)
        (Char.ofNat (0x10000 + 0x400 * (high - 0xD800) + (low - 0xDC00)) :: cs)

theorem joins_of_join {ps : List Piece} {cs : List Char} (h : join ps = some cs) :
    Joins ps cs := by
  fun_induction join ps generalizing cs with
  | case1 =>
    cases h
    exact .nil
  | case2 c ps ih =>
    obtain ⟨ds, hs, rfl⟩ := Option.map_eq_some_iff.mp h
    exact .char (ih hs)
  | case4 high low ps hh hl ih =>
    obtain ⟨ds, hs, rfl⟩ := Option.map_eq_some_iff.mp h
    exact .pair hh hl (ih hs)
  | case7 n low ps hh hl ih =>
    obtain ⟨ds, hs, rfl⟩ := Option.map_eq_some_iff.mp h
    exact .unit (Bool.eq_false_iff.mpr hh) (Bool.eq_false_iff.mpr hl) (ih hs)
  | case9 n ps _ hn ih =>
    obtain ⟨ds, hs, rfl⟩ := Option.map_eq_some_iff.mp h
    obtain ⟨hh, hl⟩ := Bool.or_eq_false_iff.mp (Bool.eq_false_iff.mpr hn)
    exact .unit hh hl (ih hs)
  | case3 => cases h
  | case5 => cases h
  | case6 => cases h
  | case8 => cases h

theorem join_of_joins {ps : List Piece} {cs : List Char} (h : Joins ps cs) :
    join ps = some cs := by
  induction h with
  | nil => rfl
  | char _ ih => rw [join, ih, Option.map_some]
  | @unit n ps cs hh hl _ ih =>
    unfold join
    split
    · rename_i he
      cases he
    · rename_i he
      cases he
    · rename_i he
      cases he
    · rename_i he
      cases he
      simp [hh, hl, ih]
    · rename_i he
      cases he
      simp [hh, hl, ih]
  | pair hh hl _ ih => rw [join, if_pos hh, if_pos hl, ih, Option.map_some]

theorem join_eq_some_iff {ps : List Piece} {cs : List Char} :
    join ps = some cs ↔ Joins ps cs :=
  ⟨joins_of_join, join_of_joins⟩

/-- Nothing that is joined is astray. -/
theorem Joins.stray_not_mem {ps : List Piece} {cs : List Char} (h : Joins ps cs) :
    .stray ∉ ps := by
  induction h with
  | nil => exact List.not_mem_nil
  | char _ ih => simpa using ih
  | unit _ _ _ ih => simpa using ih
  | pair _ _ _ ih => simpa using ih

/-- A text spells what its pieces are joined to. -/
theorem spellsText_iff {t cs : List Char} :
    SpellsText t cs ↔ ∃ ps, IsCut t ps ∧ Joins ps cs := by
  constructor
  · intro h
    induction h with
    | nil => exact ⟨[], .nil, .nil⟩
    | plain hq hb hc _ ih =>
      obtain ⟨ps, ht, hs⟩ := ih
      exact ⟨_, .plain hq hb hc ht, .char hs⟩
    | letter he _ ih =>
      obtain ⟨ps, ht, hs⟩ := ih
      exact ⟨_, .letter he ht, .char hs⟩
    | unit hu hh hl _ ih =>
      obtain ⟨ps, ht, hs⟩ := ih
      exact ⟨_, .unit hu ht, .unit hh hl hs⟩
    | pair hu hv hh hl _ ih =>
      obtain ⟨ps, ht, hs⟩ := ih
      exact ⟨_, .unit hu (.unit hv ht), .pair hh hl hs⟩
  · rintro ⟨ps, ht, hs⟩
    induction hs generalizing t with
    | nil =>
      cases ht
      exact .nil
    | char _ ih =>
      cases ht with
      | plain hq hb hc ht => exact .plain hq hb hc (ih ht)
      | letter he ht => exact .letter he (ih ht)
    | unit hh hl _ ih =>
      cases ht with
      | unit hu ht => exact .unit hu hh hl (ih ht)
    | pair hh hl _ ih =>
      cases ht with
      | unit hu ht =>
        cases ht with
        | unit hv ht => exact .pair hu hv hh hl (ih ht)

/-! ### Reading -/

/-- Behind an opening quote, a string is read up to a quote exactly as it is spelled. -/
theorem stringReader_eq_some_iff {s rest : Scanned} {text : String} :
    stringReader s = some (text, rest) ↔
      ∃ t, s = t.map some ++ some '"' :: rest ∧ SpellsText t text.toList := by
  simp only [stringReader, Option.bind_eq_bind, Option.bind_eq_some_iff, join_eq_some_iff,
    Option.pure_def]
  constructor
  · rintro ⟨⟨ps, left⟩, hp, cs, hj, ⟨⟩⟩
    obtain ⟨t, rfl, ht⟩ := isCut_of_pieces hp hj.stray_not_mem
    exact ⟨t, rfl, String.toList_ofList ▸ spellsText_iff.mpr ⟨ps, ht, hj⟩⟩
  · rintro ⟨t, rfl, h⟩
    obtain ⟨ps, ht, hj⟩ := spellsText_iff.mp h
    exact ⟨(ps, rest), pieces_of_isCut ht rest, text.toList, hj, by rw [String.ofList_toList]⟩

/-- What spells a text is read as it up to the closing quote. -/
theorem SpellsText.reads {t : List Char} {text : String} (h : SpellsText t text.toList)
    (rest : Scanned) : stringReader (t.map some ++ some '"' :: rest) = some (text, rest) :=
  stringReader_eq_some_iff.mpr ⟨t, rfl, h⟩

/-! ### Writing -/

/-- A character that is written is spelled, whatever is spelled behind it. -/
theorem spellsText_escapeChar (c : Char) {t cs : List Char} (h : SpellsText t cs) :
    SpellsText (escapeChar c ++ t) (c :: cs) := by
  have hletter {e : Char} {n : Nat} (hn : c.toNat = n) (he : unescape? e = some (Char.ofNat n)) :
      SpellsText ('\\' :: e :: t) (c :: cs) :=
    .letter (he.trans (hn ▸ congrArg some (Char.ofNat_toNat c))) h
  unfold escapeChar
  split
  · rename_i hc
    exact hletter (congrArg Char.toNat hc) rfl
  · rename_i hq
    split
    · rename_i hc
      exact hletter (congrArg Char.toNat hc) rfl
    · rename_i hb
      split
      · rename_i hc
        split
        · rename_i hn
          exact hletter hn rfl
        · rename_i hn
          exact hletter hn rfl
        · rename_i hn
          exact hletter hn rfl
        · rename_i hn
          exact hletter hn rfl
        · rename_i hn
          exact hletter hn rfl
        · have hu : unit? (some '0') (some '0') (some (Text.Hex.lower (c.toNat / 16)))
              (some (Text.Hex.lower (c.toNat % 16))) = some c.toNat := by
            have hz : Text.Hex.value? '0' = some 0 := rfl
            simp only [unit?, Option.bind_eq_bind, Option.bind_some, hz,
              Text.Hex.value?_lower _ (show c.toNat / 16 < 16 by omega),
              Text.Hex.value?_lower _ (Nat.mod_lt c.toNat (by decide)), Option.pure_def]
            exact congrArg some (by omega)
          have hs : isHigh c.toNat = false ∧ isLow c.toNat = false := by
            simp [isHigh, isLow]
            omega
          have hunit := SpellsText.unit hu hs.1 hs.2 h
          rwa [Char.ofNat_toNat] at hunit
      · rename_i hc
        exact .plain hq hb (Nat.le_of_not_lt hc) h

/-- What is written for a text spells it. -/
theorem spellsText_flatMap (cs : List Char) : SpellsText (cs.flatMap escapeChar) cs := by
  induction cs with
  | nil => exact .nil
  | cons c cs ih => exact spellsText_escapeChar c ih

end CallTransfer.Json
