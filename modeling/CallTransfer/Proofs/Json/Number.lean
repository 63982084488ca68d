import CallTransfer.Json.Writer
import CallTransfer.Proofs.Json.Grammar

/-!
    Numbers are read exactly as they are SPELLED, as far as they go: what stands behind a number
    must not go on with it. An integer of 64 bits is written as a number that denotes it.
-/

namespace CallTransfer.Json

open Text.Utf8 (Scanned)

/-- Whether a character goes on with a number. -/
def goesOn (c : Char) : Bool := Numeral.isDigit c || ['.', 'e', 'E'].contains c

/-- Whether what stands behind a number does not go on with it. -/
def Stops (s : Scanned) : Prop := ∀ c rest, s = some c :: rest → goesOn c = false

theorem stops_cons {c : Char} (h : goesOn c = false) (s : Scanned) : Stops (some c :: s) := by
  rintro _ _ ⟨⟩
  exact h

theorem Stops.isDigit {c : Char} {s : Scanned} (h : Stops (some c :: s)) :
    Numeral.isDigit c = false :=
  (Bool.or_eq_false_iff.mp (h c s rfl)).1

theorem Stops.ne {c : Char} {s : Scanned} (h : Stops (some c :: s)) :
    c ∉ ['.', 'e', 'E'] :=
  fun hc => absurd (List.contains_iff_mem.mpr hc)
    (Bool.eq_false_iff.mp (Bool.or_eq_false_iff.mp (h c s rfl)).2)

/-! ### Digits -/

/-- What is taken off the front of a text are digits. -/
theorem eq_append_takeDigits (s : Scanned) :
    s = (takeDigits s).1.map some ++ (takeDigits s).2 ∧
      ∀ c ∈ (takeDigits s).1, Numeral.isDigit c = true := by
  fun_induction takeDigits s with
  | case1 c s hc ds rest h ih =>
    rw [h] at ih
    obtain ⟨hs, hd⟩ := ih
    refine ⟨congrArg (some c :: ·) hs, fun d hm => ?_⟩
    rcases List.mem_cons.mp hm with rfl | hm
    · exact hc
    · exact hd d hm
  | case2 c s hc => exact ⟨rfl, nofun⟩
  | case3 s => exact ⟨rfl, nofun⟩

/-- Digits are taken off the front of a text up to what is no digit. -/
theorem takeDigits_append {ds : List Char} (hd : ∀ c ∈ ds, Numeral.isDigit c = true)
    {rest : Scanned} (hr : ∀ c s, rest = some c :: s → Numeral.isDigit c = false) :
    takeDigits (ds.map some ++ rest) = (ds, rest) := by
  induction ds with
  | nil =>
    rcases rest with - | ⟨- | c, s⟩
    · rfl
    · rfl
    · exact if_neg (Bool.eq_false_iff.mp (hr c s rfl))
  | cons c ds ih =>
    rw [List.forall_mem_cons] at hd
    rw [List.map_cons, List.cons_append, takeDigits, if_pos hd.1, ih hd.2]

theorem digits_of_digitsReader {s rest : Scanned} {ds : List Char}
    (h : digitsReader s = some (ds, rest)) : s = ds.map some ++ rest ∧ IsDigits ds := by
  obtain ⟨hs, hd⟩ := eq_append_takeDigits s
  unfold digitsReader at h
  split at h
  · cases h
  · rename_i hne
    have ht : takeDigits s = (ds, rest) := Option.some.inj h
    rw [ht] at hs hd
    refine ⟨hs, ?_, hd⟩
    rintro rfl
    exact hne _ ht

theorem digitsReader_append {ds : List Char} (h : IsDigits ds) {rest : Scanned}
    (hr : ∀ c s, rest = some c :: s → Numeral.isDigit c = false) :
    digitsReader (ds.map some ++ rest) = some (ds, rest) := by
  rw [digitsReader, takeDigits_append h.2 hr]
  obtain ⟨hne, -⟩ := h
  cases ds with
  | nil => exact absurd rfl hne
  | cons d ds => rfl

/-! ### Parts of a number -/

theorem IsWhole.exists_cons {w : List Char} (h : IsWhole w) :
    ∃ c ds, w = c :: ds ∧ Numeral.isDigit c = true := by
  rcases h with rfl | ⟨⟨hne, hd⟩, -⟩
  · exact ⟨'0', [], rfl, rfl⟩
  · obtain ⟨c, ds, rfl⟩ := List.exists_cons_of_ne_nil hne
    exact ⟨c, ds, rfl, hd c List.mem_cons_self⟩

theorem isWhole_of_wholeReader {s rest : Scanned} {w : List Char}
    (h : wholeReader s = some (w, rest)) : s = w.map some ++ rest ∧ IsWhole w := by
  unfold wholeReader at h
  split at h
  · cases h
    exact ⟨rfl, Or.inl rfl⟩
  · rename_i hz
    obtain ⟨rfl, hd⟩ := digits_of_digitsReader h
    refine ⟨rfl, Or.inr ⟨hd, fun hh => ?_⟩⟩
    obtain ⟨ds, rfl⟩ := List.head?_eq_some_iff.mp hh
    exact hz _ rfl

theorem wholeReader_append {w : List Char} (h : IsWhole w) {rest : Scanned}
    (hr : ∀ c s, rest = some c :: s → Numeral.isDigit c = false) :
    wholeReader (w.map some ++ rest) = some (w, rest) := by
  rcases h with rfl | ⟨hd, hz⟩
  · rfl
  · rw [wholeReader, digitsReader_append hd hr]
    intro s he
    obtain ⟨hne, -⟩ := hd
    cases w with
    | nil => exact hne rfl
    | cons c w =>
      obtain ⟨hc, -⟩ := List.cons.inj he
      exact hz (congrArg some (Option.some.inj hc))

theorem spellsFraction_of_fractionReader {s rest : Scanned} {fraction : Option (List Char)}
    (h : fractionReader s = some (fraction, rest)) :
    ∃ f, s = f.map some ++ rest ∧ SpellsFraction f fraction := by
  unfold fractionReader at h
  split at h
  · obtain ⟨⟨ds, left⟩, hd, he⟩ := Option.map_eq_some_iff.mp h
    cases he
    obtain ⟨rfl, hds⟩ := digits_of_digitsReader hd
    exact ⟨_, rfl, .some hds⟩
  · cases h
    exact ⟨[], rfl, .none⟩

theorem fractionReader_append {f : List Char} {fraction : Option (List Char)}
    (h : SpellsFraction f fraction) {rest : Scanned}
    (hr : ∀ c s, rest = some c :: s → Numeral.isDigit c = false ∧ c ≠ '.') :
    fractionReader (f.map some ++ rest) = some (fraction, rest) := by
  cases h with
  | none =>
    rw [List.map_nil, List.nil_append, fractionReader]
    rintro s rfl
    exact (hr _ _ rfl).2 rfl
  | some hd =>
    rw [List.map_cons, List.cons_append, fractionReader,
      digitsReader_append hd fun c s he => (hr c s he).1]
    rfl

theorem spellsExponent_of_exponentReader {s rest : Scanned} {exponent : Option (Bool × List Char)}
    (h : exponentReader s = some (exponent, rest)) :
    ∃ e, s = e.map some ++ rest ∧ SpellsExponent e exponent := by
  unfold exponentReader at h
  split at h
  · split at h
    · rename_i he
      split at h
      · obtain ⟨⟨ds, left⟩, hd, hs⟩ := Option.map_eq_some_iff.mp h
        cases hs
        obtain ⟨rfl, hds⟩ := digits_of_digitsReader hd
        exact ⟨_ :: _ :: _, rfl, .plus he hds⟩
      · obtain ⟨⟨ds, left⟩, hd, hs⟩ := Option.map_eq_some_iff.mp h
        cases hs
        obtain ⟨rfl, hds⟩ := digits_of_digitsReader hd
        exact ⟨_ :: _ :: _, rfl, .minus he hds⟩
      · obtain ⟨⟨ds, left⟩, hd, hs⟩ := Option.map_eq_some_iff.mp h
        cases hs
        obtain ⟨rfl, hds⟩ := digits_of_digitsReader hd
        exact ⟨_ :: _, rfl, .bare he hds⟩
    · cases h
      exact ⟨[], rfl, .none⟩
  · cases h
    exact ⟨[], rfl, .none⟩

theorem exponentReader_append {e : List Char} {exponent : Option (Bool × List Char)}
    (h : SpellsExponent e exponent) {rest : Scanned} (hr : Stops rest) :
    exponentReader (e.map some ++ rest) = some (exponent, rest) := by
  have hdigit : ∀ c s, rest = some c :: s → Numeral.isDigit c = false := by
    rintro c s rfl
    exact hr.isDigit
  cases h with
  | none =>
    rcases rest with - | ⟨- | c, s⟩
    · rfl
    · rfl
    · have hc := hr.ne
      refine if_neg ?_
      rintro (rfl | rfl) <;> simp at hc
  | @bare e ds he hd =>
    obtain ⟨d, ds, rfl⟩ := List.exists_cons_of_ne_nil hd.1
    have hsign : d ≠ '+' ∧ d ≠ '-' := by
      have hdd := hd.2 d List.mem_cons_self
      constructor <;> (rintro rfl; cases hdd)
    have hread := digitsReader_append hd hdigit
    simp only [List.map_cons, List.cons_append] at hread ⊢
    rw [exponentReader, if_pos he, hread]
    · rfl
    · rintro _ ⟨⟩
      exact hsign.1 rfl
    · rintro _ ⟨⟩
      exact hsign.2 rfl
  | plus he hd =>
    simp only [List.map_cons, List.cons_append]
    rw [exponentReader, if_pos he, digitsReader_append hd hdigit]
    rfl
  | minus he hd =>
    simp only [List.map_cons, List.cons_append]
    rw [exponentReader, if_pos he, digitsReader_append hd hdigit]
    rfl

/-! ### Numbers -/

/-- What is read as a number spells it. -/
theorem spellsNumber_of_numberText {s rest : Scanned} {n : NumberText}
    (h : numberText s = some (n, rest)) : ∃ t, s = t.map some ++ rest ∧ SpellsNumber t n := by
  unfold numberText at h
  simp only [Option.bind_eq_bind, Option.bind_eq_some_iff, Option.pure_def] at h
  obtain ⟨⟨w, _⟩, hwhole, ⟨fraction, _⟩, hfraction, ⟨exponent, _⟩, hexponent, hn⟩ := h
  cases hn
  obtain ⟨f, hbehind, hf⟩ := spellsFraction_of_fractionReader hfraction
  obtain ⟨e, hlast, he⟩ := spellsExponent_of_exponentReader hexponent
  split at hwhole
  · obtain ⟨rfl, hw⟩ := isWhole_of_wholeReader hwhole
    refine ⟨'-' :: w ++ f ++ e, ?_, .negative hw hf he⟩
    simp only at hbehind hlast
    simp [hbehind, hlast]
  · obtain ⟨rfl, hw⟩ := isWhole_of_wholeReader hwhole
    refine ⟨w ++ f ++ e, ?_, .positive hw hf he⟩
    simp only at hbehind hlast
    simp [hbehind, hlast]

/-- What stands behind the digits of a number does not go on with them. -/
theorem SpellsExponent.follows {e : List Char} {exponent : Option (Bool × List Char)}
    (h : SpellsExponent e exponent) {rest : Scanned} (hr : Stops rest) :
    ∀ c s, e.map some ++ rest = some c :: s → Numeral.isDigit c = false ∧ c ≠ '.' := by
  have hsign {e c : Char} (he : e = 'e' ∨ e = 'E') (hc : e = c) :
      Numeral.isDigit c = false ∧ c ≠ '.' := by
    subst hc
    rcases he with rfl | rfl <;> decide
  cases h with
  | none =>
    rintro c s rfl
    refine ⟨hr.isDigit, ?_⟩
    rintro rfl
    exact hr.ne (by decide)
  | bare he _ => exact fun c s hc => hsign he (Option.some.inj (List.cons.inj hc).1)
  | plus he _ => exact fun c s hc => hsign he (Option.some.inj (List.cons.inj hc).1)
  | minus he _ => exact fun c s hc => hsign he (Option.some.inj (List.cons.inj hc).1)

/-- What spells a number is read as it, if what stands behind does not go on with it. -/
theorem numberText_of_spellsNumber {t : List Char} {n : NumberText} (h : SpellsNumber t n)
    {rest : Scanned} (hr : Stops rest) : numberText (t.map some ++ rest) = some (n, rest) := by
  -- behind the sign, both kinds of numbers are read alike
  have hparts {w f e : List Char} {fraction : Option (List Char)}
      {exponent : Option (Bool × List Char)} (hw : IsWhole w) (hf : SpellsFraction f fraction)
      (he : SpellsExponent e exponent) :
      wholeReader (w.map some ++ (f.map some ++ (e.map some ++ rest))) =
          some (w, f.map some ++ (e.map some ++ rest)) ∧
        fractionReader (f.map some ++ (e.map some ++ rest)) =
          some (fraction, e.map some ++ rest) ∧
        exponentReader (e.map some ++ rest) = some (exponent, rest) := by
    have hbehind := he.follows hr
    refine ⟨wholeReader_append hw ?_, fractionReader_append hf hbehind,
      exponentReader_append he hr⟩
    cases hf with
    | none => exact fun c s hc => (hbehind c s hc).1
    | some _ =>
      rintro c s ⟨⟩
      rfl
  cases h with
  | @positive w f fraction e exponent hw hf he =>
    obtain ⟨h1, h2, h3⟩ := hparts hw hf he
    simp only [List.map_append, List.append_assoc]
    unfold numberText
    split
    rename_i sign hs
    split at hs
    · rename_i hminus
      obtain ⟨c, w, rfl, hc⟩ := hw.exists_cons
      cases hminus
      cases hc
    · cases hs
      simp only [h1, h2, h3, Option.bind_eq_bind, Option.bind_some, Option.pure_def]
  | negative hw hf he =>
    obtain ⟨h1, h2, h3⟩ := hparts hw hf he
    simp only [List.map_append, List.map_cons, List.cons_append, List.append_assoc, numberText, h1,
      h2, h3, Option.bind_eq_bind, Option.bind_some, Option.pure_def]

/-! ### Writing -/

/-- Digits that denote a number below a bound are all taken into account. -/
theorem accumulate_eq {bound : Nat} {ds : List Char} (h : Numeral.value ds < bound) :
    accumulate bound 0 ds = (Numeral.value ds, []) := by
  have hle (ds : List Char) (n : Nat) :
      n ≤ ds.foldl (fun n c => 10 * n + Numeral.digitValue c) n := by
    induction ds generalizing n with
    | nil => exact Nat.le_refl n
    | cons c ds ih => exact Nat.le_trans (by omega) (ih (10 * n + Numeral.digitValue c))
  unfold Numeral.value at h ⊢
  generalize 0 = n at h ⊢
  induction ds generalizing n with
  | nil => rfl
  | cons c ds ih =>
    rw [List.foldl_cons] at h ⊢
    rw [accumulate, if_pos (Nat.lt_of_le_of_lt (hle ds _) h), ih _ h]

/-- Of all numbers, only zero has digits that start with a zero. -/
theorem head?_digits {n : Nat} (h : n ≠ 0) : (Numeral.digits n).head? ≠ some '0' := by
  have hdigit : ∀ n < 10, n ≠ 0 → Numeral.digit n ≠ '0' := by decide
  fun_induction Numeral.digits n with
  | case1 n hn => simpa using hdigit n hn h
  | case2 n hn ih =>
    obtain ⟨c, ds, he⟩ := List.exists_cons_of_ne_nil (Numeral.digits_ne_nil (n / 10))
    rw [he] at ih ⊢
    exact ih (by omega)

theorem isWhole_digits (n : Nat) : IsWhole (Numeral.digits n) := by
  by_cases hn : n = 0
  · subst hn
    rw [Numeral.digits]
    exact Or.inl rfl
  · exact Or.inr ⟨⟨Numeral.digits_ne_nil n, List.all_eq_true.mp (Numeral.all_isDigit_digits n)⟩,
      head?_digits hn⟩

/-- An integer of 64 bits is written as a number that denotes it. -/
theorem spellsNumber_signed {n : Int} (hl : -int64Bound ≤ n) (hu : n < UInt64.size) :
    ∃ t, SpellsNumber (Numeral.signed n) t ∧ t.value? = some (.int n) := by
  have hbound : n.natAbs < UInt64.size := by
    have : int64Bound < UInt64.size := by decide
    omega
  have hall : accumulate UInt64.size 0 (Numeral.digits n.natAbs) = (n.natAbs, []) := by
    rw [accumulate_eq (by rwa [Numeral.value_digits]), Numeral.value_digits]
  unfold Numeral.signed
  split
  · refine ⟨⟨true, Numeral.digits n.natAbs, none, none⟩, ?_, ?_⟩
    · simpa using SpellsNumber.negative (isWhole_digits n.natAbs) .none .none
    · have hrange : 0 < n.natAbs ∧ n.natAbs ≤ int64Bound := by omega
      have hn : (-(n.natAbs : Int)) = n := by omega
      simp only [NumberText.value?, hall, Option.isNone_none, List.isEmpty_nil, Bool.and_self,
        Bool.not_true, Bool.false_eq_true, hrange, and_self, if_true, if_false, hn]
  · refine ⟨⟨false, Numeral.digits n.natAbs, none, none⟩, ?_, ?_⟩
    · simpa using SpellsNumber.positive (isWhole_digits n.natAbs) .none .none
    · have hn : (n.natAbs : Int) = n := by omega
      simp only [NumberText.value?, hall, Option.isNone_none, List.isEmpty_nil, Bool.and_self,
        Bool.not_false, if_true, hn]

end CallTransfer.Json
