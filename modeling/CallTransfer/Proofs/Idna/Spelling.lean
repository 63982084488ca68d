import CallTransfer.Idna.Basic
import CallTransfer.Proofs.Idna.Blank
import CallTransfer.Text.Lowercase

/-!
    The SPELLING of a domain name. A name whose lower case is in ASCII means the same in any case,
    the Kelvin sign for a k included; and unless one of its labels is in ASCII form, what it means
    is its lower case. The tables for characters beyond ASCII do not come into it: no ASCII
    character is replaced, taken apart, composed, a mark or from right to left.
-/

namespace CallTransfer

/-! ### Tables part by part -/

namespace Text

/-- The entries of a table. -/
def entries (read : List Char → α) (s : List Char) : List α :=
  ((fields ' ' s).filter (!·.isEmpty)).map read

theorem entries_append (read : List Char → α) (s t : List Char) :
    entries read (s ++ ' ' :: t) = entries read s ++ entries read t := by
  rw [entries, fields_append_cons, List.filter_append, List.map_append]
  rfl

/-- A table in parts, each of which ends between two entries, has the entries of the parts. -/
theorem mem_entries_join {read : List Char → α} {a : α} {parts : List String}
    (h : ∀ part ∈ parts, part.toList.getLast? = some ' ') :
    a ∈ entries read (String.join parts).toList ↔
      ∃ part ∈ parts, a ∈ entries read part.toList := by
  rw [String.toList_join]
  induction parts with
  | nil => simp [entries, fields]
  | cons part parts ih =>
    obtain ⟨s, hs⟩ := List.getLast?_eq_some_iff.mp (h part List.mem_cons_self)
    have hpart : entries read part.toList = entries read s := by
      rw [hs]
      simpa [entries, fields] using entries_append read s []
    rw [List.flatMap_cons, hs, List.append_assoc, List.singleton_append, entries_append,
      List.mem_append, ih fun p hp => h p (List.mem_cons_of_mem _ hp), ← hpart]
    simp

namespace CharSet

/-- Whether a part of a table ends between two ranges, and all of its ranges end before a span of
    numbers or start behind it. -/
def avoids (low high : Nat) (part : List Char) : Bool :=
  part.getLast? == some ' ' && (entries rangeOf part).all fun r => r.2 < low || high < r.1

theorem avoids_ofList {low high : Nat} {s : List Char} (h : avoids low high s = true) :
    avoids low high (String.ofList s).toList = true := by
  rwa [String.toList_ofList]

/-- A character between the ranges of a table is not in its set. -/
theorem contains_ofText_join {low high : Nat} {parts : List String}
    (h : ∀ part ∈ parts, avoids low high part.toList = true) {c : Char} (hl : low ≤ c.toNat)
    (hh : c.toNat ≤ high) : (ofText (String.join parts)).contains c = false := by
  have hends : ∀ part ∈ parts, part.toList.getLast? = some ' ' :=
    fun part hp => beq_iff_eq.mp (Bool.and_eq_true_iff.mp (h part hp)).1
  refine Array.any_eq_false'.mpr fun range hr => ?_
  obtain ⟨part, hp, hm⟩ := (mem_entries_join hends).mp (List.mem_toArray.mp hr)
  have hout := List.all_eq_true.mp (Bool.and_eq_true_iff.mp (h part hp)).2 range hm
  simp only [Bool.or_eq_true, Bool.and_eq_true, decide_eq_true_eq] at hout ⊢
  omega

end CharSet

namespace CharMap

variable {c : Char} {part : String} {parts : List String} {images : List Char}

/-- Whether a part of a table ends between two runs, the first of which that covers a character
    gives it these images. -/
def gives (c : Char) (images part : List Char) : Bool :=
  part.getLast? == some ' ' && ((runsOf part).find? (covers · c.toNat)).any fun r =>
    r.images.map (fun i => Char.ofNat (i + (c.toNat - r.low))) == images

theorem gives_ofList {s : List Char} (h : gives c images s = true) :
    gives c images (String.ofList s).toList = true := by
  rwa [String.toList_ofList]

theorem runs_ofText_join_cons (h : part.toList.getLast? = some ' ') :
    (ofText (String.join (part :: parts))).runs.toList =
      runsOf part.toList ++ (ofText (String.join parts)).runs.toList := by
  obtain ⟨s, hs⟩ := List.getLast?_eq_some_iff.mp h
  have hpart : runsOf part.toList = runsOf s := by
    rw [hs, runsOf_append]
    exact List.append_nil _
  rw [hpart]
  change runsOf (String.join (part :: parts)).toList = _ ++ runsOf (String.join parts).toList
  rw [String.toList_join, String.toList_join, List.flatMap_cons, hs, List.append_assoc,
    List.singleton_append, runsOf_append]

/-- A part without a run for a character is passed over. -/
theorem find?_skip (h : lists (!covers · c.toNat) part.toList = true) :
    (ofText (String.join (part :: parts))).find? c = (ofText (String.join parts)).find? c := by
  obtain ⟨hends, hnone⟩ := Bool.and_eq_true_iff.mp h
  have hpart : (runsOf part.toList).find? (covers · c.toNat) = none := by
    simpa using hnone
  rw [find?, find?, ← Array.find?_toList, ← Array.find?_toList,
    runs_ofText_join_cons (beq_iff_eq.mp hends), List.find?_append, hpart, Option.none_or]

/-- A part with a run for a character gives its images. -/
theorem find?_of_gives (h : gives c images part.toList = true) :
    (ofText (String.join (part :: parts))).find? c = some images := by
  obtain ⟨hends, hany⟩ := Bool.and_eq_true_iff.mp h
  rw [find?, ← Array.find?_toList, runs_ofText_join_cons (beq_iff_eq.mp hends), List.find?_append]
  cases hrun : (runsOf part.toList).find? (covers · c.toNat) with
  | none =>
    rw [hrun] at hany
    cases hany
  | some run =>
    rw [hrun] at hany
    rw [Option.some_or, Option.map_some, beq_iff_eq.mp hany]

end CharMap

end Text

namespace Idna

open Text (CharSet CharMap MapRun fields lower lowerChar)

/-! ### Tables beyond ASCII -/

variable {c d : Char} {s : List Char}

/-- No composite is in ASCII, and nothing in ASCII is put on a base. -/
theorem foreign_composites : ∀ run ∈ composites.runs,
    (0x7F < run.low && (run.images.drop 1).all (0x7F < ·)) = true := by
  refine CharMap.forall_runs_ofText_join ?_
  repeat first
    | exact List.forall_mem_nil _
    | refine List.forall_mem_cons.mpr ⟨lists_ofList (by decide +kernel), ?_⟩

/-- No ASCII character is a mark, a letter from right to left or an Arabic digit. -/
theorem contains_of_ascii (hc : c.toNat ≤ 0x7F) : marks.contains c = false ∧
    rightLetters.contains c = false ∧ arabicDigits.contains c = false := by
  refine ⟨CharSet.contains_ofText_join ?_ (Nat.zero_le _) hc,
    CharSet.contains_ofText_join ?_ (Nat.zero_le _) hc,
    CharSet.contains_ofText_join ?_ (Nat.zero_le _) hc⟩
  all_goals
    repeat first
      | exact List.forall_mem_nil _
      | refine List.forall_mem_cons.mpr ⟨CharSet.avoids_ofList (by decide +kernel), ?_⟩

/-- The Kelvin sign is a k. -/
theorem find?_variants_kelvin : variants.find? '\u212A' = some ['k'] := by
  unfold variants
  repeat first
    | refine (CharMap.find?_skip (lists_ofList (by decide +kernel))).trans ?_
    | exact CharMap.find?_of_gives (CharMap.gives_ofList (by decide +kernel))

/-! ### ASCII is left alone -/

/-- Whether a text is in ASCII, without capitals. -/
def IsLowAscii (s : List Char) : Prop := ∀ c ∈ s, c.toNat ≤ 0x7F ∧ c.isUpper = false

theorem takeApart_of_ascii (hc : c.toNat ≤ 0x7F) (depth : Nat) : takeApart depth c = [c] := by
  have hs : syllableParts? c = none := if_pos (by simp; omega)
  have hf : composites.find? c = none := by
    refine Option.map_eq_none_iff.mpr (Array.find?_eq_none.mpr fun run hr hv => ?_)
    have hforeign := foreign_composites run hr
    simp only [CharMap.covers, Bool.and_eq_true, decide_eq_true_eq] at hforeign hv
    omega
  cases depth with
  | zero => rfl
  | succ depth => simp only [takeApart, hs, hf, Option.orElse_none]

/-- Nothing is composed with an ASCII character behind it. -/
theorem composite?_of_ascii (hd : d.toNat ≤ 0x7F) : composite? c d = none := by
  have hs : syllable? c d = none := by
    unfold syllable?
    simp only
    split
    · omega
    · split
      · omega
      · rfl
  rw [composite?, hs, Option.orElse_none]
  refine Option.map_eq_none_iff.mpr (Array.find?_eq_none.mpr fun run hr hv => ?_)
  have hforeign := foreign_composites run hr
  rw [beq_iff_eq] at hv
  simp only [hv, List.drop_succ_cons, List.drop_zero, List.all_cons, List.all_nil,
    Bool.and_eq_true, decide_eq_true_eq] at hforeign
  omega

theorem markClass_of_ascii (hc : c.toNat ≤ 0x7F) : markClass c = 0 := if_pos (by omega)

theorem composeFrom_of_ascii (h : ∀ c ∈ s, c.toNat ≤ 0x7F) : composeFrom c [] s = c :: s := by
  induction s generalizing c with
  | nil => rfl
  | cons d s ih =>
    have hd := h d List.mem_cons_self
    simp only [composeFrom, composite?_of_ascii hd, markClass_of_ascii hd, ite_self, if_true,
      List.nil_append, List.cons_append, ih fun e he => h e (List.mem_cons_of_mem _ he)]

/-- A text in ASCII is composed. -/
theorem compose_of_ascii (h : ∀ c ∈ s, c.toNat ≤ 0x7F) : compose s = s := by
  have hparts : s.flatMap (takeApart maxNesting) = s := by
    induction s with
    | nil => rfl
    | cons c s ih =>
      rw [List.flatMap_cons, takeApart_of_ascii (h c List.mem_cons_self),
        ih fun d hd => h d (List.mem_cons_of_mem _ hd)]
      rfl
  have horder : orderMarks s = s := by
    clear hparts
    induction s with
    | nil => rfl
    | cons c s ih =>
      rw [orderMarks, if_pos (markClass_of_ascii (h c List.mem_cons_self)),
        ih fun d hd => h d (List.mem_cons_of_mem _ hd)]
  rw [compose, hparts, horder]
  cases s with
  | nil => rfl
  | cons c s =>
    rw [composeOrdered, if_pos (markClass_of_ascii (h c List.mem_cons_self))]
    exact composeFrom_of_ascii fun d hd => h d (List.mem_cons_of_mem _ hd)

/-- Joiners are not in ASCII. -/
theorem joinersFit_of_ascii (h : ∀ c ∈ s, c.toNat ≤ 0x7F) (before : List Char) :
    joinersFit before s = true := by
  induction s generalizing before with
  | nil => rfl
  | cons c s ih =>
    have hc := h c List.mem_cons_self
    have hn : c ≠ '\u200C' ∧ c ≠ '\u200D' := by
      constructor <;> (rintro rfl; exact absurd hc (by decide))
    simp [joinersFit, hn, ih fun d hd => h d (List.mem_cons_of_mem _ hd)]

theorem IsLowAscii.isValidLabel (h : IsLowAscii s) : isValidLabel s = true := by
  have hascii : ∀ c ∈ s, c.toNat ≤ 0x7F := fun c hc => (h c hc).1
  have hplain : s.all isPlain = true := by
    refine List.all_eq_true.mpr fun c hc => ?_
    rw [isPlain, if_pos (Nat.lt_succ_of_le (h c hc).1), (h c hc).2]
    rfl
  have hhead : s.head?.any marks.contains = false := by
    cases s with
    | nil => rfl
    | cons c s =>
      rw [List.head?_cons, Option.any_some, (contains_of_ascii (hascii c List.mem_cons_self)).1]
  rw [Idna.isValidLabel, compose_of_ascii hascii, hplain, hhead, joinersFit_of_ascii hascii]
  simp

/-- Labels in ASCII run from left to right, so far as they run anywhere. -/
theorem labelsRunOneWay_of_ascii {labels : List (List Char)}
    (h : ∀ label ∈ labels, ∀ c ∈ label, c.toNat ≤ 0x7F) : labelsRunOneWay labels = true := by
  have hleft : ∀ label ∈ labels, ∀ c ∈ label, (Direction.ofChar c).isRightward = false := by
    intro label hl c hc
    obtain ⟨-, hletter, hdigit⟩ := contains_of_ascii (h label hl c hc)
    unfold Direction.ofChar
    rw [hletter, hdigit]
    simp only [Bool.false_eq_true, if_false]
    repeat' split
    all_goals rfl
  have hnone : (labels.map (·.map Direction.ofChar)).any (·.any (·.isRightward)) = false := by
    rw [List.any_map]
    refine List.any_eq_false.mpr fun label hl => ?_
    rw [Function.comp_apply, List.any_map, Bool.not_eq_true]
    refine List.any_eq_false.mpr fun c hc => ?_
    rw [Function.comp_apply, hleft label hl c hc]
    exact Bool.false_ne_true
  rw [labelsRunOneWay, hnone]
  rfl

/-! ### Names -/

theorem toLower_of_isUpper (h : c.isUpper = false) : c.toLower = c :=
  dif_neg (of_decide_eq_false h)

/-- The capitals of ASCII end at Z. -/
theorem isUpper_of_lt (h : 0x5A < c.toNat) : c.isUpper = false := by
  refine decide_eq_false ?_
  rintro ⟨-, hz⟩
  have hz : c.toNat ≤ 0x5A := UInt32.le_iff_toNat_le.mp hz
  omega

theorem isUpper_toLower (c : Char) : c.toLower.isUpper = false := by
  by_cases h : c.toNat < 128
  · exact Text.of_forall_lt (p := fun c => c.toLower.isUpper = false) (by decide) h
  · have hc := isUpper_of_lt (c := c) (by omega)
    rw [toLower_of_isUpper hc, hc]

/-- A lower case has no capitals of ASCII. -/
theorem isUpper_lowerChar (c : Char) : (lowerChar c).isUpper = false := by
  unfold lowerChar
  split
  · rfl
  · exact isUpper_toLower c

/-- The lower case of a text that has it in ASCII. -/
theorem isLowAscii_lower (h : ∀ c ∈ s, (lowerChar c).toNat ≤ 0x7F) : IsLowAscii (lower s) := by
  intro d hd
  obtain ⟨c, hc, rfl⟩ := List.mem_map.mp hd
  exact ⟨h c hc, isUpper_lowerChar c⟩

theorem IsLowAscii.map_toLower (h : IsLowAscii s) : s.map Char.toLower = s :=
  (List.map_congr_left fun c hc => toLower_of_isUpper (h c hc).2).trans (List.map_id s)

/-- Where ASCII's lower case is in ASCII, it is the lower case. -/
theorem map_toLower_eq_lower (h : (s.map Char.toLower).all Punycode.isAscii = true) :
    s.map Char.toLower = lower s := by
  refine List.map_congr_left fun c hc => (Text.lowerChar_of_toLower ?_).symm
  exact of_decide_eq_true (List.all_eq_true.mp h _ (List.mem_map_of_mem hc))

theorem IsLowAscii.all_isAscii (h : IsLowAscii s) : s.all Punycode.isAscii = true :=
  List.all_eq_true.mpr fun c hc => decide_eq_true (Nat.lt_succ_of_le (h c hc).1)

/-- A character with an ASCII letter for its lower case is replaced by it. -/
theorem replace?_of_lowerChar (h : (lowerChar c).toNat ≤ 0x7F) :
    replace? c = some [lowerChar c] := by
  by_cases hk : c = '\u212A'
  · rw [hk, replace?, if_neg (by decide), find?_variants_kelvin]
    rfl
  · rw [lowerChar, if_neg hk] at h ⊢
    refine if_pos (Nat.lt_of_not_le fun hc => ?_)
    rw [toLower_of_isUpper (isUpper_of_lt (by omega))] at h
    omega

/-- Replacing turns a name whose lower case is in ASCII into its lower case. -/
theorem mapM_replace?_of_lower (h : ∀ c ∈ s, (lowerChar c).toNat ≤ 0x7F) :
    s.mapM replace? = some ((lower s).map ([·])) := by
  induction s with
  | nil => rfl
  | cons c s ih =>
    rw [List.mapM_cons, replace?_of_lowerChar (h c List.mem_cons_self),
      ih fun d hd => h d (List.mem_cons_of_mem _ hd)]
    rfl

theorem labels?_of_lower (h : ∀ c ∈ s, (lowerChar c).toNat ≤ 0x7F) :
    labels? s = ((fields '.' (lower s)).mapM readLabel?).bind fun labels =>
      if labelsRunOneWay labels then some labels else none := by
  have hlow := isLowAscii_lower h
  have hflat : ((lower s).map ([·])).flatten = lower s := by
    rw [← List.flatMap_def, List.flatMap_singleton']
  rw [labels?, mapM_replace?_of_lower h, Option.bind_eq_bind, Option.bind_some, hflat,
    compose_of_ascii fun c hc => (hlow c hc).1]

/-- A name in ASCII is made of labels in ASCII. -/
theorem IsLowAscii.of_mem_fields (h : IsLowAscii s) {label : List Char}
    (hl : label ∈ fields '.' s) : IsLowAscii label :=
  fun c hc => h c (Text.intercalate_fields '.' s ▸ mem_intercalate hl hc)

theorem mapM_some {f : α → Option β} {g : α → β} {s : List α} (h : ∀ a ∈ s, f a = some (g a)) :
    s.mapM f = some (s.map g) := by
  induction s with
  | nil => rfl
  | cons a s ih =>
    rw [List.mapM_cons, h a List.mem_cons_self, ih fun b hb => h b (List.mem_cons_of_mem _ hb)]
    rfl

/-- The labels of a name whose lower case is in ASCII, none of them in ASCII form, are those of its
    lower case as they stand there. -/
theorem labels?_eq_fields (h : ∀ c ∈ s, (lowerChar c).toNat ≤ 0x7F)
    (he : hasEncodedLabel (lower s) = false) : labels? s = some (fields '.' (lower s)) := by
  have hlow := isLowAscii_lower h
  rw [hasEncodedLabel, List.any_eq_false] at he
  have hread : ∀ label ∈ fields '.' (lower s), readLabel? label = some (id label) := by
    intro label hl
    rw [readLabel?, Text.after?, if_neg (he label hl)]
    exact if_pos (hlow.of_mem_fields hl).isValidLabel
  have hrun := labelsRunOneWay_of_ascii fun label hl c hc => (hlow.of_mem_fields hl c hc).1
  rw [labels?_of_lower h, mapM_some hread, List.map_id, Option.bind_some, if_pos hrun]

/-- Labels in ASCII are written as they are. -/
theorem map_writeLabel_fields (h : IsLowAscii s) :
    (fields '.' s).map writeLabel = fields '.' s :=
  (List.map_congr_left fun _ hl => if_pos (h.of_mem_fields hl).all_isAscii).trans (List.map_id _)

/-- A name whose lower case is in ASCII, none of its labels in ASCII form, means its lower case. -/
theorem toAscii?_eq_lower (h : ∀ c ∈ s, (lowerChar c).toNat ≤ 0x7F)
    (he : hasEncodedLabel (lower s) = false) :
    toAscii? s = if (lower s).any isForbidden then none else some (lower s) := by
  unfold toAscii?
  simp only
  split
  · rename_i hascii
    rw [map_toLower_eq_lower (Bool.and_eq_true_iff.mp hascii).1]
    rfl
  · rw [labels?_eq_fields h he, Option.map_some, map_writeLabel_fields (isLowAscii_lower h),
      Text.intercalate_fields]
    rfl

/-- A name with a label in ASCII form is taken label by label. -/
theorem toAscii?_of_encoded (he : hasEncodedLabel (lower s) = true) :
    toAscii? s = ((labels? s).map fun labels => ['.'].intercalate (labels.map writeLabel)).bind
      fun ascii => if ascii.any isForbidden then none else some ascii := by
  unfold toAscii?
  simp only
  rw [if_neg]
  · rfl
  · rw [Bool.and_eq_true, Bool.not_eq_true']
    rintro ⟨hascii, hn⟩
    rw [map_toLower_eq_lower hascii, he] at hn
    cases hn

/-- The name that labels make, if they fit together. -/
def joined? (labels : List (List Char)) : Option (List Char) :=
  if labelsRunOneWay labels = true then
    let ascii := ['.'].intercalate (labels.map writeLabel)
    if ascii.any isForbidden then none else some ascii
  else none

/-- A name whose lower case is in ASCII is, in effect, taken label by label. -/
theorem toAscii?_eq_joined? (h : ∀ c ∈ s, (lowerChar c).toNat ≤ 0x7F) :
    toAscii? s = ((fields '.' (lower s)).mapM readLabel?).bind joined? := by
  have hroute : toAscii? s =
      ((labels? s).map fun labels => ['.'].intercalate (labels.map writeLabel)).bind
        fun ascii => if ascii.any isForbidden then none else some ascii := by
    cases he : hasEncodedLabel (lower s) with
    | true => exact toAscii?_of_encoded he
    | false =>
      rw [toAscii?_eq_lower h he, labels?_eq_fields h he, Option.map_some, Option.bind_some,
        map_writeLabel_fields (isLowAscii_lower h), Text.intercalate_fields]
  rw [hroute, labels?_of_lower h]
  cases (fields '.' (lower s)).mapM readLabel? with
  | none => rfl
  | some labels =>
    rw [Option.bind_some, Option.bind_some, joined?]
    split <;> rfl

theorem IsLowAscii.lower_eq (h : IsLowAscii s) : lower s = s := by
  rw [← map_toLower_eq_lower (h.map_toLower.symm ▸ h.all_isAscii), h.map_toLower]

theorem IsLowAscii.lowerChar_le (h : IsLowAscii s) : ∀ c ∈ s, (lowerChar c).toNat ≤ 0x7F := by
  intro c hc
  have hm : lowerChar c ∈ lower s := List.mem_map_of_mem hc
  exact (h _ (h.lower_eq ▸ hm)).1

/-- SPELLING: a name whose lower case is in ASCII means the same as its lower case. -/
theorem toAscii?_lower (h : ∀ c ∈ s, (lowerChar c).toNat ≤ 0x7F) :
    toAscii? (lower s) = toAscii? s := by
  have hlow := isLowAscii_lower h
  rw [toAscii?_eq_joined? h, toAscii?_eq_joined? hlow.lowerChar_le, hlow.lower_eq]

end Idna

end CallTransfer
