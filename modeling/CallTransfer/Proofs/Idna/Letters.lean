import CallTransfer.Proofs.Idna.Spelling

/-!
    Labels of small LETTERS. Such a label stays as it is, runs from left to right and has nothing
    to say on the labels next to it: a name that it is put in front of or behind has an ASCII form
    exactly if the name on its own has one, and then the label stands there as well.
-/

namespace CallTransfer.Idna

open Text (CharSet fields lower lowerChar)

variable {c : Char} {p s : List Char}

/-- Whether a label is made of small letters. -/
def isWord (p : List Char) : Bool := !p.isEmpty && p.all fun c => 0x61 ≤ c.toNat && c.toNat ≤ 0x7A

theorem isWord_iff : isWord p = true ↔ p ≠ [] ∧ ∀ c ∈ p, 0x61 ≤ c.toNat ∧ c.toNat ≤ 0x7A := by
  simp [isWord]

/-! ### Small letters -/

section Letter
variable (hl : 0x61 ≤ c.toNat) (hh : c.toNat ≤ 0x7A)
include hl hh

/-- No small letter is in one of the tables of other directions. -/
theorem contains_of_letter : neutrals.contains c = false ∧
    directionlessMarks.contains c = false ∧ europeanDigits.contains c = false ∧
    separators.contains c = false := by
  refine ⟨CharSet.contains_ofText_join ?_ hl hh, CharSet.contains_ofText_join ?_ hl hh,
    CharSet.contains_ofText_join ?_ hl hh, CharSet.contains_ofText_join ?_ hl hh⟩
  all_goals
    repeat first
      | exact List.forall_mem_nil _
      | refine List.forall_mem_cons.mpr ⟨CharSet.avoids_ofList (by decide +kernel), ?_⟩

/-- Small letters run from left to right. -/
theorem ofChar_eq_left : Direction.ofChar c = .left := by
  obtain ⟨-, hright, harabic⟩ := contains_of_ascii (by omega : c.toNat ≤ 0x7F)
  obtain ⟨hneutral, hmark, heuropean, hseparator⟩ := contains_of_letter hl hh
  unfold Direction.ofChar
  rw [hright, harabic, heuropean, hmark, hneutral, hseparator]
  rfl

/-- Small letters mean nothing in a URL. -/
theorem isForbidden_of_letter : isForbidden c = false := by
  have hc : c.toNat < 0x7B := by omega
  exact Text.of_forall_lt (p := fun c => 0x61 ≤ c.toNat → isForbidden c = false) (by decide) hc hl

end Letter

/-! ### One label more -/

theorem intercalate_concat {sep last : List α} {parts : List (List α)} (hn : parts ≠ []) :
    sep.intercalate (parts ++ [last]) = sep.intercalate parts ++ sep ++ last := by
  induction parts with
  | nil => exact absurd rfl hn
  | cons first rest ih =>
    cases rest with
    | nil => simp
    | cons second rest =>
      rw [List.cons_append, List.cons_append, List.intercalate_cons_cons, ← List.cons_append,
        ih (List.cons_ne_nil second rest), List.intercalate_cons_cons]
      simp only [List.append_assoc]

/-- A name has a label, and so has what is read of it. -/
theorem ne_nil_of_mapM_fields {labels : List (List Char)}
    (h : (fields '.' s).mapM readLabel? = some labels) : labels ≠ [] := by
  obtain ⟨first, rest, hf⟩ := List.exists_cons_of_ne_nil (Text.fields_ne_nil '.' s)
  obtain ⟨label, hl, -⟩ := exists_mem_of_mapM h (hf ▸ List.mem_cons_self : first ∈ fields '.' s)
  exact List.ne_nil_of_mem hl

section Word
variable (hp : isWord p = true)
include hp

theorem isLowAscii_of_isWord : IsLowAscii p := by
  intro c hc
  obtain ⟨hl, hh⟩ := (isWord_iff.mp hp).2 c hc
  exact ⟨by omega, isUpper_of_lt (by omega)⟩

theorem not_mem_of_isWord (hc : c.toNat < 0x61) : c ∉ p := by
  intro hm
  have hl := ((isWord_iff.mp hp).2 c hm).1
  omega

theorem readLabel?_of_isWord : readLabel? p = some p := by
  have hstart : ¬ encodedStart.isPrefixOf p = true := by
    intro hs
    obtain ⟨t, rfl⟩ := List.isPrefixOf_iff_prefix.mp hs
    exact not_mem_of_isWord hp (by decide) (List.mem_append_left t (by decide : '-' ∈ encodedStart))
  rw [readLabel?, Text.after?, if_neg hstart]
  exact if_pos (isLowAscii_of_isWord hp).isValidLabel

theorem directions_of_isWord : p.map Direction.ofChar = List.replicate p.length .left := by
  refine List.eq_replicate_iff.mpr ⟨List.length_map .., fun d hd => ?_⟩
  obtain ⟨c, hc, rfl⟩ := List.mem_map.mp hd
  obtain ⟨hl, hh⟩ := (isWord_iff.mp hp).2 c hc
  exact ofChar_eq_left hl hh

theorem runsOneWay_of_isWord : runsOneWay (p.map Direction.ofChar) = true := by
  obtain ⟨n, hn⟩ :=
    Nat.exists_eq_succ_of_ne_zero (mt List.length_eq_zero_iff.mp (isWord_iff.mp hp).1)
  have hlast : ((List.replicate (n + 1) Direction.left).reverse.dropWhile (· == .mark)).head? =
      some .left := by
    rw [List.reverse_replicate]
    rfl
  have hfits : (List.replicate (n + 1) Direction.left).all (·.fitsLeft) = true := by
    simp [Direction.fitsLeft]
  rw [directions_of_isWord hp, hn, Nat.succ_eq_add_one, runsOneWay, hlast]
  simp only [List.replicate_succ, List.head?_cons] at hfits ⊢
  rw [hfits]
  rfl

theorem isRightward_of_isWord : (p.map Direction.ofChar).any (·.isRightward) = false := by
  rw [directions_of_isWord hp]
  simp [Direction.isRightward]

variable {labels : List (List Char)}

theorem labelsRunOneWay_cons : labelsRunOneWay (p :: labels) = labelsRunOneWay labels := by
  simp only [labelsRunOneWay, List.map_cons, List.any_cons, List.all_cons,
    isRightward_of_isWord hp, runsOneWay_of_isWord hp, Bool.or_true, Bool.true_and, Bool.false_or]

theorem labelsRunOneWay_concat : labelsRunOneWay (labels ++ [p]) = labelsRunOneWay labels := by
  simp only [labelsRunOneWay, List.map_append, List.any_append, List.all_append, List.map_cons,
    List.map_nil, List.any_cons, List.all_cons, List.any_nil, List.all_nil,
    isRightward_of_isWord hp, runsOneWay_of_isWord hp, Bool.or_true, Bool.and_true, Bool.or_false]

theorem any_isForbidden_of_isWord : p.any isForbidden = false := by
  refine List.any_eq_false.mpr fun c hc => ?_
  obtain ⟨hl, hh⟩ := (isWord_iff.mp hp).2 c hc
  rw [isForbidden_of_letter hl hh]
  exact Bool.false_ne_true

theorem writeLabel_of_isWord : writeLabel p = p := if_pos (isLowAscii_of_isWord hp).all_isAscii

theorem joined?_cons (hn : labels ≠ []) :
    joined? (p :: labels) = (joined? labels).map (p ++ '.' :: ·) := by
  have hink : isForbidden '.' = false := by decide
  have hcons : ['.'].intercalate ((p :: labels).map writeLabel) =
      p ++ '.' :: ['.'].intercalate (labels.map writeLabel) := by
    rw [List.map_cons, writeLabel_of_isWord hp, List.intercalate_cons_of_ne_nil (by simpa using hn),
      List.append_assoc]
    rfl
  rw [joined?, joined?, labelsRunOneWay_cons hp, hcons]
  simp only [List.any_append, List.any_cons, any_isForbidden_of_isWord hp, hink, Bool.false_or]
  split
  · split <;> rfl
  · rfl

theorem joined?_concat (hn : labels ≠ []) :
    joined? (labels ++ [p]) = (joined? labels).map (· ++ '.' :: p) := by
  have hink : isForbidden '.' = false := by decide
  have hconcat : ['.'].intercalate ((labels ++ [p]).map writeLabel) =
      ['.'].intercalate (labels.map writeLabel) ++ '.' :: p := by
    rw [List.map_append, List.map_singleton, writeLabel_of_isWord hp,
      intercalate_concat (by simpa using hn), List.append_assoc]
    rfl
  rw [joined?, joined?, labelsRunOneWay_concat hp, hconcat]
  simp only [List.any_append, List.any_cons, any_isForbidden_of_isWord hp, hink, Bool.or_false]
  split
  · split <;> rfl
  · rfl

theorem lower_of_isWord : lower p = p := (isLowAscii_of_isWord hp).lower_eq

theorem fields_of_isWord : fields '.' p = [p] :=
  Text.fields_of_not_mem (not_mem_of_isWord hp (by decide))

/-- A word in front of a name stands in front of what the name means. -/
theorem toAscii?_cons (h : ∀ c ∈ s, (lowerChar c).toNat ≤ 0x7F) :
    toAscii? (p ++ '.' :: s) = (toAscii? s).map (p ++ '.' :: ·) := by
  have hall : ∀ c ∈ p ++ '.' :: s, (lowerChar c).toNat ≤ 0x7F :=
    List.forall_mem_append.mpr ⟨(isLowAscii_of_isWord hp).lowerChar_le,
      List.forall_mem_cons.mpr ⟨by decide, h⟩⟩
  have hlower : lower (p ++ '.' :: s) = p ++ '.' :: lower s :=
    List.map_append.trans (congrArg (· ++ '.' :: lower s) (lower_of_isWord hp))
  rw [toAscii?_eq_joined? hall, toAscii?_eq_joined? h, hlower, Text.fields_append_cons,
    fields_of_isWord hp, List.singleton_append, List.mapM_cons, readLabel?_of_isWord hp]
  cases hm : (fields '.' (lower s)).mapM readLabel? with
  | none => rfl
  | some labels => exact joined?_cons hp (ne_nil_of_mapM_fields hm)

/-- A word behind a name stands behind what the name means. -/
theorem toAscii?_concat (h : ∀ c ∈ s, (lowerChar c).toNat ≤ 0x7F) :
    toAscii? (s ++ '.' :: p) = (toAscii? s).map (· ++ '.' :: p) := by
  have hall : ∀ c ∈ s ++ '.' :: p, (lowerChar c).toNat ≤ 0x7F :=
    List.forall_mem_append.mpr ⟨h,
      List.forall_mem_cons.mpr ⟨by decide, (isLowAscii_of_isWord hp).lowerChar_le⟩⟩
  have hlower : lower (s ++ '.' :: p) = lower s ++ '.' :: p :=
    List.map_append.trans (congrArg (lower s ++ '.' :: ·) (lower_of_isWord hp))
  rw [toAscii?_eq_joined? hall, toAscii?_eq_joined? h, hlower, Text.fields_append_cons,
    fields_of_isWord hp, List.mapM_append, List.mapM_cons, readLabel?_of_isWord hp]
  cases hm : (fields '.' (lower s)).mapM readLabel? with
  | none => rfl
  | some labels => exact joined?_concat hp (ne_nil_of_mapM_fields hm)

end Word

end CallTransfer.Idna
