import CallTransfer.Idna.Basic

/-!
    Blanks in domain names. A control character or a space is never replaced, composed, decoded or
    left out on the way from a name to its ASCII form, and the ASCII form may not hold one. So a
    name with a BLANK in it, wherever it stands, is no domain name.
-/

namespace CallTransfer.Idna

open Text (CharMap MapRun fields)

/-! ### Composition -/

/-- Whether neither a composite nor one of its parts is a blank. -/
def isInk (run : MapRun) : Bool := 0x20 < run.low && run.images.all (0x20 < ·)

theorem lists_ofList {check : MapRun → Bool} {s : List Char} (h : CharMap.lists check s = true) :
    CharMap.lists check (String.ofList s).toList = true := by
  rwa [String.toList_ofList]

/-- No blank is a composite or part of one. -/
theorem isInk_of_mem_composites : ∀ run ∈ composites.runs, isInk run = true := by
  refine CharMap.forall_runs_ofText_join ?_
  -- every part is read off its literal, which is far cheaper than decoding the bytes of the table
  repeat first
    | exact List.forall_mem_nil _
    | refine List.forall_mem_cons.mpr ⟨lists_ofList (by decide +kernel), ?_⟩

variable {c : Char}

theorem find?_composites (hc : c.toNat ≤ 0x20) : composites.find? c = none := by
  refine Option.map_eq_none_iff.mpr (Array.find?_eq_none.mpr fun run hr hv => ?_)
  have hi := isInk_of_mem_composites run hr
  simp only [isInk, CharMap.covers, Bool.and_eq_true, decide_eq_true_eq] at hi hv
  omega

/-- A blank is not taken apart. -/
theorem takeApart_of_le (hc : c.toNat ≤ 0x20) (depth : Nat) : takeApart depth c = [c] := by
  cases depth with
  | zero => rfl
  | succ depth =>
    have hs : syllableParts? c = none := if_pos (by simp; omega)
    simp only [takeApart, hs, find?_composites hc, Option.orElse_none]

/-- A blank is made with nothing. -/
theorem composite?_eq_none {a b : Char} (h : a.toNat ≤ 0x20 ∨ b.toNat ≤ 0x20) :
    composite? a b = none := by
  have hs : syllable? a b = none := by
    unfold syllable?
    simp only
    split
    · omega
    · split
      · omega
      · rfl
  rw [composite?, hs, Option.orElse_none]
  refine Option.map_eq_none_iff.mpr (Array.find?_eq_none.mpr fun run hr hv => ?_)
  have hi := isInk_of_mem_composites run hr
  rw [beq_iff_eq] at hv
  simp only [isInk, hv, Bool.and_eq_true, decide_eq_true_eq, List.all_cons, List.all_nil] at hi
  omega

theorem mem_insertMark {d : Char} {s : List Char} : c ∈ insertMark d s ↔ c = d ∨ c ∈ s := by
  induction s with
  | nil => simp [insertMark]
  | cons e s ih =>
    rw [insertMark]
    split
    · rw [List.mem_cons, ih, List.mem_cons, or_left_comm]
    · exact List.mem_cons

theorem mem_orderMarks {s : List Char} : c ∈ orderMarks s ↔ c ∈ s := by
  induction s with
  | nil => rfl
  | cons d s ih =>
    rw [orderMarks]
    split
    · rw [List.mem_cons, List.mem_cons, ih]
    · rw [mem_insertMark, List.mem_cons, ih]

/-- A blank stays where bases and marks are composed. -/
theorem mem_composeFrom (hc : c.toNat ≤ 0x20) {base : Char} {marks s : List Char}
    (h : c ∈ base :: marks ++ s) : c ∈ composeFrom base marks s := by
  induction s generalizing base marks with
  | nil => simpa [composeFrom] using h
  | cons d s ih =>
    rw [composeFrom]
    split
    · rename_i both hb
      -- neither of two characters that are made one is the blank
      have hn : ¬ (base.toNat ≤ 0x20 ∨ d.toNat ≤ 0x20) := by
        intro hn
        split at hb
        · rw [composite?_eq_none hn] at hb
          cases hb
        · cases hb
      refine ih ?_
      simp only [List.mem_cons, List.mem_append, List.cons_append] at h ⊢
      rcases h with rfl | h | rfl | h
      · exact absurd (Or.inl hc) hn
      · exact Or.inr (Or.inl h)
      · exact absurd (Or.inr hc) hn
      · exact Or.inr (Or.inr h)
    · simp only [List.mem_cons, List.mem_append, List.cons_append] at h
      split
      · simp only [List.mem_append, List.mem_cons, List.cons_append]
        rcases h with h | h | h
        · exact Or.inl h
        · exact Or.inr (Or.inl h)
        · exact Or.inr (Or.inr (ih (by simpa using h)))
      · refine ih ?_
        simpa [or_assoc] using h

theorem mem_composeOrdered (hc : c.toNat ≤ 0x20) {s : List Char} (h : c ∈ s) :
    c ∈ composeOrdered s := by
  induction s with
  | nil => cases h
  | cons d s ih =>
    rw [composeOrdered]
    split
    · exact mem_composeFrom hc (by simpa using h)
    · rcases List.mem_cons.mp h with rfl | h
      · exact List.mem_cons_self
      · exact List.mem_cons_of_mem d (ih h)

/-- A blank stays in the composed form. -/
theorem mem_compose (hc : c.toNat ≤ 0x20) {s : List Char} (h : c ∈ s) : c ∈ compose s := by
  refine mem_composeOrdered hc (mem_orderMarks.mpr (List.mem_flatMap.mpr ⟨c, h, ?_⟩))
  rw [takeApart_of_le hc]
  exact List.mem_singleton_self c

/-! ### Labels -/

theorem toLower_of_le (hc : c.toNat ≤ 0x20) : c.toLower = c := by
  unfold Char.toLower
  rw [dif_neg]
  simp only [ge_iff_le, UInt32.le_iff_toNat_le, not_and]
  intro h
  have hv : c.val.toNat ≤ 0x20 := hc
  have ha : 'A'.val.toNat = 65 := rfl
  omega

/-- A blank is replaced by itself. -/
theorem replace?_of_le (hc : c.toNat ≤ 0x20) : replace? c = some [c] := by
  rw [replace?, if_pos (by omega), toLower_of_le hc]

theorem mem_flatten_of_mapM_replace? (hc : c.toNat ≤ 0x20) {name : List Char}
    {replaced : List (List Char)} (h : c ∈ name) (hr : name.mapM replace? = some replaced) :
    c ∈ replaced.flatten := by
  induction name generalizing replaced with
  | nil => cases h
  | cons d name ih =>
    simp only [List.mapM_cons, Option.bind_eq_bind, Option.bind_eq_some_iff, Option.pure_def] at hr
    obtain ⟨first, hf, rest, hn, ⟨⟩⟩ := hr
    rw [List.flatten_cons, List.mem_append]
    rcases List.mem_cons.mp h with rfl | h
    · rw [replace?_of_le hc] at hf
      cases hf
      exact Or.inl (List.mem_singleton_self c)
    · exact Or.inr (ih h hn)

namespace Punycode

theorem digitValue?_of_le (hc : c.toNat ≤ 0x20) : digitValue? c = none := by
  unfold digitValue?
  simp only
  repeat rw [if_neg (by omega)]

/-- A number puts a character among those that stand already. -/
theorem Reading.mem_insert {r t : Reading} {sum : Nat} (h : r.insert sum = some t)
    (hm : c ∈ r.label) : c ∈ t.label := by
  unfold Reading.insert at h
  simp only at h
  split at h
  · cases h
    exact List.mem_insertIdx (Nat.le_of_lt_succ (Nat.mod_lt _ (Nat.succ_pos _))) |>.mpr (Or.inr hm)
  · cases h

theorem Reading.mem_next {r t : Reading} {d : Char} (h : r.next d = some t) (hm : c ∈ r.label) :
    c ∈ t.label := by
  unfold Reading.next at h
  obtain ⟨value, -, h⟩ := Option.bind_eq_some_iff.mp h
  simp only at h
  split at h
  · exact Reading.mem_insert h hm
  · cases h
    exact hm

/-- Reading digits keeps what stands already, and a blank is no digit. -/
theorem Reading.mem_foldlM (hc : c.toNat ≤ 0x20) {digits : List Char} {r t : Reading}
    (h : digits.foldlM Reading.next r = some t) : c ∉ digits ∧ (c ∈ r.label → c ∈ t.label) := by
  induction digits generalizing r with
  | nil =>
    cases h
    exact ⟨nofun, id⟩
  | cons d digits ih =>
    obtain ⟨u, hu, h⟩ := Option.bind_eq_some_iff.mp h
    obtain ⟨hn, hm⟩ := ih h
    refine ⟨?_, fun hr => hm (Reading.mem_next hu hr)⟩
    rintro (_ | ⟨_, hd⟩)
    · obtain ⟨value, hv, -⟩ := Option.bind_eq_some_iff.mp hu
      rw [digitValue?_of_le hc] at hv
      cases hv
    · exact hn hd

/-- The text up to the last hyphen is what is left of it without the digits. -/
theorem take_length_sub (text : List Char) :
    text.take (text.length - (text.reverse.takeWhile (· ≠ '-')).reverse.length) =
      (text.reverse.dropWhile (· ≠ '-')).reverse := by
  have h : text = (text.reverse.dropWhile (· ≠ '-')).reverse ++
      (text.reverse.takeWhile (· ≠ '-')).reverse := by
    rw [← List.reverse_append, List.takeWhile_append_dropWhile, List.reverse_reverse]
  have hl := congrArg List.length h
  rw [List.length_append] at hl
  rw [Nat.sub_eq_of_eq_add hl]
  exact (congrArg (List.take _) h).trans List.take_left

/-- A character of a code that is no hyphen stands before the last hyphen or among the digits. -/
theorem mem_dropLast_or_mem_takeWhile (hc : c ≠ '-') {text : List Char} (h : c ∈ text) :
    c ∈ (text.reverse.dropWhile (· ≠ '-')).reverse.dropLast ∨
      c ∈ (text.reverse.takeWhile (· ≠ '-')).reverse := by
  rw [← List.mem_reverse, ← List.takeWhile_append_dropWhile (p := (· ≠ '-')) (l := text.reverse),
    List.mem_append] at h
  rcases h with h | h
  · exact Or.inr (List.mem_reverse.mpr h)
  · cases hd : text.reverse.dropWhile (· ≠ '-') with
    | nil => rw [hd] at h; cases h
    | cons d before =>
      have hn := List.head?_dropWhile_not (· ≠ '-') text.reverse
      rw [hd] at h hn
      have hd' : d = '-' := by simpa using hn
      rw [List.reverse_cons, List.dropLast_concat, List.mem_reverse]
      rcases List.mem_cons.mp h with rfl | h
      · exact absurd hd' hc
      · exact Or.inl h

/-- A blank in the code of a label is in the label. -/
theorem mem_of_decode? (hc : c.toNat ≤ 0x20) {code label : List Char} (h : c ∈ code)
    (hd : decode? code = some label) : c ∈ label := by
  have hh : c ≠ '-' := by
    rintro rfl
    exact absurd hc (by decide)
  unfold decode? at hd
  simp only [take_length_sub] at hd
  split at hd
  · cases hd
  · obtain ⟨r, hr, hd⟩ := Option.bind_eq_some_iff.mp hd
    obtain ⟨hn, hm⟩ := Reading.mem_foldlM hc hr
    have hl : r.label = label := by
      split at hd
      · exact Option.some.inj hd
      · cases hd
    rw [← hl]
    refine hm ((mem_dropLast_or_mem_takeWhile hh h).resolve_right fun hb => hn ?_)
    split
    · exact h
    · exact hb

/-- A blank of a label is in its code. -/
theorem mem_encode (hc : c.toNat ≤ 0x20) {label : List Char} (h : c ∈ label) :
    c ∈ encode label := by
  have ha : c ∈ label.filter isAscii :=
    List.mem_filter.mpr ⟨h, decide_eq_true (by omega)⟩
  unfold encode
  simp only [List.mem_append]
  refine Or.inl ?_
  rw [if_neg fun he => List.not_mem_nil (List.isEmpty_iff.mp he ▸ ha)]
  exact List.mem_append_left _ ha

end Punycode

/-- A blank of a label is in either form of it. -/
theorem mem_of_readLabel? (hc : c.toNat ≤ 0x20) {s label : List Char} (h : c ∈ s)
    (hr : readLabel? s = some label) : c ∈ label := by
  unfold readLabel? at hr
  split at hr
  · split at hr
    · cases hr
      exact h
    · cases hr
  · rename_i code hs
    obtain ⟨read, hd, hr⟩ := Option.bind_eq_some_iff.mp hr
    have hl : read = label := by
      split at hr
      · cases hr
      · exact Option.some.inj hr
    rw [Text.after?_eq_some_iff.mp hs, List.mem_append] at h
    refine hl ▸ Punycode.mem_of_decode? hc (h.resolve_left fun hm => ?_) hd
    have hx : ∀ d ∈ encodedStart, ¬ d.toNat ≤ 0x20 := Text.forall_of_all (by decide)
    exact hx c hm hc

theorem mem_writeLabel (hc : c.toNat ≤ 0x20) {label : List Char} (h : c ∈ label) :
    c ∈ writeLabel label := by
  unfold writeLabel
  split
  · exact h
  · exact List.mem_append_right _ (Punycode.mem_encode hc h)

/-! ### Names -/

theorem exists_mem_of_mapM {f : α → Option β} {s : List α} {t : List β} (h : s.mapM f = some t)
    {a : α} (ha : a ∈ s) : ∃ b ∈ t, f a = some b := by
  induction s generalizing t with
  | nil => cases ha
  | cons d s ih =>
    simp only [List.mapM_cons, Option.bind_eq_bind, Option.bind_eq_some_iff, Option.pure_def] at h
    obtain ⟨b, hb, rest, hr, ⟨⟩⟩ := h
    rcases List.mem_cons.mp ha with rfl | ha
    · exact ⟨b, List.mem_cons_self, hb⟩
    · obtain ⟨e, he, hf⟩ := ih hr ha
      exact ⟨e, List.mem_cons_of_mem _ he, hf⟩

theorem mem_intercalate {sep part : List α} {parts : List (List α)} {a : α} (hp : part ∈ parts)
    (ha : a ∈ part) : a ∈ sep.intercalate parts := by
  induction parts with
  | nil => cases hp
  | cons first rest ih =>
    cases rest with
    | nil =>
      rw [List.mem_singleton.mp hp] at ha
      simpa [List.intercalate] using ha
    | cons second rest =>
      have he : sep.intercalate (first :: second :: rest) =
          first ++ sep ++ sep.intercalate (second :: rest) := by
        simp [List.intercalate]
      rw [he, List.mem_append, List.mem_append]
      rcases List.mem_cons.mp hp with rfl | hp
      · exact Or.inl (Or.inl ha)
      · exact Or.inr (ih hp)

/-- A blank of a name is in one of its labels. -/
theorem exists_label_of_mem (hc : c.toNat ≤ 0x20) {name : List Char} {labels : List (List Char)}
    (h : c ∈ name) (hl : labels? name = some labels) : ∃ label ∈ labels, c ∈ label := by
  obtain ⟨replaced, hr, hl⟩ := Option.bind_eq_some_iff.mp hl
  obtain ⟨read, hm, hl⟩ := Option.bind_eq_some_iff.mp hl
  have he : read = labels := by
    split at hl
    · exact Option.some.inj hl
    · cases hl
  have hd : c ≠ '.' := by
    rintro rfl
    exact absurd hc (by decide)
  obtain ⟨field, hf, hcf⟩ := Text.exists_field_of_mem
    (mem_compose hc (mem_flatten_of_mapM_replace? hc h hr)) hd
  obtain ⟨label, hmem, hread⟩ := exists_mem_of_mapM hm hf
  exact ⟨label, he ▸ hmem, mem_of_readLabel? hc hcf hread⟩

/-- NO BLANK: a name that holds a control character or a space has no form in ASCII. -/
theorem toAscii?_eq_none_of_mem (hc : c.toNat ≤ 0x20) {name : List Char} (h : c ∈ name) :
    toAscii? name = none := by
  have hall : ∀ ascii : List Char, c ∈ ascii →
      (if ascii.any isForbidden then none else some ascii) = (none : Option (List Char)) := by
    intro ascii hm
    refine if_pos (List.any_eq_true.mpr ⟨c, hm, ?_⟩)
    simp [isForbidden, hc]
  have hl : c ∈ name.map Char.toLower := List.mem_map.mpr ⟨c, h, toLower_of_le hc⟩
  unfold toAscii?
  simp only
  split
  · exact hall _ hl
  · cases hs : labels? name with
    | none => rfl
    | some labels =>
      obtain ⟨label, hm, hcl⟩ := exists_label_of_mem hc h hs
      exact hall _ (mem_intercalate (List.mem_map_of_mem hm) (mem_writeLabel hc hcl))

end CallTransfer.Idna
