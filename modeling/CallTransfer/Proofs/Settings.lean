import CallTransfer.Proofs.Url.PlainOrigin
import CallTransfer.Settings.Basic
import Mathlib.Data.List.Induction
import Mathlib.Tactic.SplitIfs

/-!
    What settings SAY. A duration is said by digits and a unit between blanks, a count by digits
    behind a plus sign at most; leading zeros do not count, and what does not fit its word is not
    said at all. Each setting is what its own variable says, or else its default.
-/

namespace CallTransfer

/-! ### Numerals -/

namespace Numeral

variable {s : List Char} {n : Nat} {c : Char}

/-- Whether digits denote a number: they are its decimal digits, leading zeros apart. -/
def Denotes (s : List Char) (n : Nat) : Prop :=
  ∃ zeros, s = List.replicate zeros '0' ++ digits n

theorem digit_digitValue (h : isDigit c = true) : digitValue c < 10 ∧ digit (digitValue c) = c := by
  have hlow : 48 ≤ c.toNat ∧ c.toNat ≤ 57 := by
    simpa [isDigit, Char.le_def, UInt32.le_iff_toNat_le] using h
  have hvalue : 48 + digitValue c = c.toNat := Nat.add_sub_cancel' hlow.1
  refine ⟨by omega, ?_⟩
  rw [digit, hvalue, Char.ofNat_toNat]

theorem digits_of_lt {d : Nat} (hd : d < 10) : digits d = [digit d] := by
  rw [digits, if_pos hd]

theorem digits_ten_mul_add {d : Nat} (hn : 0 < n) (hd : d < 10) :
    digits (10 * n + d) = digits n ++ [digit d] := by
  have htens : (10 * n + d) / 10 = n := by omega
  have hones : (10 * n + d) % 10 = d := by omega
  rw [digits, if_neg (by omega), htens, hones]

/-- One more digit behind a number counts ones. -/
theorem Denotes.concat (h : Denotes s n) (hc : isDigit c = true) :
    Denotes (s ++ [c]) (10 * n + digitValue c) := by
  obtain ⟨zeros, rfl⟩ := h
  obtain ⟨hd, hdigit⟩ := digit_digitValue hc
  rcases Nat.eq_zero_or_pos n with rfl | hn
  · refine ⟨zeros + 1, ?_⟩
    have hzero : digits 0 = ['0'] := digits_of_lt (by decide)
    rw [hzero, ← List.replicate_succ', Nat.mul_zero, Nat.zero_add, digits_of_lt hd, hdigit]
  · exact ⟨zeros, by rw [digits_ten_mul_add hn hd, hdigit, List.append_assoc]⟩

/-- Digits denote the number that they count up to. -/
theorem denotes_value (hn : s ≠ []) (h : ∀ c ∈ s, isDigit c = true) : Denotes s (value s) := by
  induction s using List.reverseRecOn with
  | nil => exact absurd rfl hn
  | append_singleton front c ih =>
    have hc := h c List.mem_concat_self
    rw [value_concat]
    rcases List.eq_nil_or_concat front with rfl | ⟨_, _, hfront⟩
    · obtain ⟨hd, hdigit⟩ := digit_digitValue hc
      refine ⟨0, ?_⟩
      change [c] = digits (10 * 0 + digitValue c)
      rw [Nat.mul_zero, Nat.zero_add, digits_of_lt hd, hdigit]
    · have hne : front ≠ [] := by simp [hfront]
      exact (ih hne fun a ha => h a (List.mem_append_left _ ha)).concat hc

theorem value_zeros (zeros : Nat) (s : List Char) :
    value (List.replicate zeros '0' ++ s) = value s := by
  induction zeros with
  | zero => rfl
  | succ zeros ih => exact ih

theorem Denotes.forall (h : Denotes s n) : ∀ c ∈ s, isDigit c = true := by
  obtain ⟨zeros, rfl⟩ := h
  refine List.forall_mem_append.mpr ⟨fun c hc => ?_, List.all_eq_true.mp (all_isDigit_digits n)⟩
  rw [List.eq_of_mem_replicate hc]
  decide

theorem Denotes.ne_nil (h : Denotes s n) : s ≠ [] := by
  obtain ⟨zeros, rfl⟩ := h
  exact List.append_ne_nil_of_right_ne_nil _ (digits_ne_nil n)

/-- READ: a number is read from exactly the digits that denote it. -/
theorem read?_eq_some_iff : read? s = some n ↔ Denotes s n := by
  constructor
  · intro h
    unfold read? at h
    split at h
    · cases h
    · rename_i hs
      obtain rfl := Option.some.inj h
      rw [Bool.or_eq_true, not_or, Bool.not_eq_true, Bool.not_eq_true, Bool.not_eq_false'] at hs
      exact denotes_value (by simpa using hs.1) (List.all_eq_true.mp hs.2)
  · intro h
    have hempty : s.isEmpty = false := by simpa using h.ne_nil
    have hall : s.all isDigit = true := List.all_eq_true.mpr h.forall
    obtain ⟨zeros, rfl⟩ := h
    rw [read?, hempty, hall, value_zeros, value_digits]
    rfl

end Numeral

/-! ### Blanks around a text -/

namespace Text

variable {p : α → Bool} {s before core behind : List α}

/-- What is trimmed off a text stands around the rest of it. -/
theorem exists_trimBy (p : α → Bool) (s : List α) : ∃ before behind,
    s = before ++ trimBy p s ++ behind ∧ ∀ a ∈ before ++ behind, p a = true := by
  obtain ⟨behind, hrest, hbehind⟩ := Url.dropEndWhile_append_takeEnd p (s.dropWhile p)
  refine ⟨s.takeWhile p, behind, ?_, List.forall_mem_append.mpr ⟨fun a ha => ?_, hbehind⟩⟩
  · rw [List.append_assoc, trimBy, ← hrest, List.takeWhile_append_dropWhile]
  · exact List.all_eq_true.mp List.all_takeWhile a ha

/-- What stands around a text in which nothing is to be trimmed is trimmed off. -/
theorem trimBy_of_forall (hc : ∀ a ∈ core, p a = false) (hb : ∀ a ∈ before ++ behind, p a = true) :
    trimBy p (before ++ core ++ behind) = core := by
  obtain ⟨hbefore, hbehind⟩ := List.forall_mem_append.mp hb
  have hfront : (before ++ core ++ behind).dropWhile p = (core ++ behind).dropWhile p := by
    rw [List.append_assoc, List.dropWhile_append_of_pos hbefore]
  have hback (t : List α) (ht : ∀ a ∈ t, p a = false) : dropEndWhile p (t ++ behind) = t := by
    rw [dropEndWhile, List.reverse_append,
      List.dropWhile_append_of_pos fun a ha => hbehind a (List.mem_reverse.mp ha)]
    exact Url.dropEndWhile_of_forall ht
  rw [trimBy, hfront]
  cases core with
  | nil =>
    rw [List.nil_append, List.dropWhile_eq_nil_iff.mpr hbehind]
    rfl
  | cons a core =>
    rw [List.cons_append, List.dropWhile_cons, hc a List.mem_cons_self, if_neg (by decide)]
    exact hback (a :: core) hc

end Text

/-! ### Durations -/

namespace Duration

/-- The units by their names, and the milliseconds in each. -/
def units : List (List Char × Nat) :=
  [("ms".toList, 1), ("s".toList, 1000), ("m".toList, 60000), ("h".toList, 3600000)]

/-- Whether a text SPELLS a duration in milliseconds: it is a number of units between blanks, and
    fits 64 bits. -/
inductive Spells : List Char → Nat → Prop
  | of {before number unit behind : List Char} {n size : Nat}
      (blanks : ∀ c ∈ before ++ behind, Text.isBlank c = true)
      (counts : Numeral.Denotes number n) (isUnit : (unit, size) ∈ units)
      (fits : n * size < UInt64.size) :
      Spells (before ++ (number ++ unit) ++ behind) (n * size)

theorem unit?_eq_some_iff {s : List Char} {size : Nat} :
    unit? s = some size ↔ (s, size) ∈ units := by
  have hunits : units = [(['m', 's'], 1), (['s'], 1000), (['m'], 60000), (['h'], 3600000)] := by
    decide
  rw [hunits]
  constructor
  · intro h
    unfold unit? at h
    split_ifs at h <;> simp_all
  · intro h
    simp only [List.mem_cons, Prod.mk.injEq, List.not_mem_nil, or_false] at h
    rcases h with ⟨rfl, rfl⟩ | ⟨rfl, rfl⟩ | ⟨rfl, rfl⟩ | ⟨rfl, rfl⟩ <;> rfl

/-- No unit starts with a digit, and none holds a blank. -/
theorem of_mem_units : ∀ u ∈ units, u.1.takeWhile Numeral.isDigit = [] ∧
    u.1.dropWhile Numeral.isDigit = u.1 ∧ ∀ c ∈ u.1, Text.isBlank c = false := by
  have hall : ∀ u ∈ units, u.1.takeWhile Numeral.isDigit = [] ∧
      u.1.dropWhile Numeral.isDigit = u.1 ∧ u.1.any Text.isBlank = false := by
    decide
  intro u hu
  obtain ⟨htake, hdrop, hblank⟩ := hall u hu
  exact ⟨htake, hdrop, fun c hc => Bool.eq_false_iff.mpr (List.any_eq_false.mp hblank c hc)⟩

theorem isBlank_of_isDigit {c : Char} (h : Numeral.isDigit c = true) : Text.isBlank c = false := by
  have hc : c.toNat < 58 :=
    Nat.lt_succ_of_le (UInt32.le_iff_toNat_le.mp (of_decide_eq_true (Bool.and_eq_true_iff.mp h).2))
  exact Text.of_forall_lt (p := fun c => Numeral.isDigit c = true → Text.isBlank c = false)
    (by decide) hc h

/-- READ: a duration is read from exactly the texts that spell it. -/
theorem parse?_eq_some_iff {text : String} {ms : Nat} :
    parse? text = some ms ↔ Spells text.toList ms := by
  unfold parse?
  simp only [Option.bind_eq_bind, Option.bind_eq_some_iff]
  constructor
  · rintro ⟨n, hn, size, hsize, hms⟩
    split at hms
    · rename_i hfits
      obtain rfl := Option.some.inj hms
      obtain ⟨before, behind, htext, hblanks⟩ := Text.exists_trimBy Text.isBlank text.toList
      rw [htext, ← List.takeWhile_append_dropWhile (p := Numeral.isDigit)
        (l := Text.trimBy Text.isBlank text.toList)]
      exact .of hblanks (Numeral.read?_eq_some_iff.mp hn) (unit?_eq_some_iff.mp hsize) hfits
    · cases hms
  · intro h
    generalize text.toList = s at h
    cases h with
    | @of before number unit behind n size hblanks hcounts hunit hfits =>
      obtain ⟨htake, hdrop, hink⟩ := of_mem_units _ hunit
      have hcore : Text.trim (before ++ (number ++ unit) ++ behind) = number ++ unit :=
        Text.trimBy_of_forall (List.forall_mem_append.mpr
          ⟨fun c hc => isBlank_of_isDigit (hcounts.forall c hc), hink⟩) hblanks
      rw [hcore, List.takeWhile_append_of_pos hcounts.forall, htake, List.append_nil,
        List.dropWhile_append_of_pos hcounts.forall, hdrop]
      exact ⟨n, Numeral.read?_eq_some_iff.mpr hcounts, size, unit?_eq_some_iff.mpr hunit,
        if_pos hfits⟩

end Duration

/-! ### Settings -/

/-- A variable counts if it is set to something. -/
theorem Environment.get?_eq_some_iff {env : Environment} {name text : String} :
    env.get? name = some text ↔ env.var? name = some text ∧ text ≠ "" := by
  simp [get?, Option.filter_eq_some_iff]

/-- Whether a setting is what its variable says, if that is set to something that says anything,
    and its default otherwise. -/
structure IsSetting (env : Environment) (name : String) (Says : List Char → α → Prop)
    (default setting : α) : Prop where
  said : ∀ text a, env.var? name = some text → text ≠ "" → Says text.toList a → setting = a
  unsaid : (∀ text a, env.var? name = some text → text ≠ "" → ¬ Says text.toList a) →
    setting = default

/-- A setting that is read from its variable is what that says, or the default. -/
theorem getD_bind_get?_eq_iff {read : String → Option α} {Says : List Char → α → Prop}
    (hread : ∀ text a, read text = some a ↔ Says text.toList a) {env : Environment} {name : String}
    {default setting : α} :
    ((env.get? name).bind read).getD default = setting ↔
      IsSetting env name Says default setting := by
  have hsaid (a : α) : (env.get? name).bind read = some a ↔
      ∃ text, (env.var? name = some text ∧ text ≠ "") ∧ Says text.toList a := by
    simp only [Option.bind_eq_some_iff, Environment.get?_eq_some_iff, hread]
  cases hr : (env.get? name).bind read with
  | some a =>
    obtain ⟨text, ⟨hvar, hne⟩, ha⟩ := (hsaid a).mp hr
    rw [Option.getD_some]
    constructor
    · rintro rfl
      refine ⟨fun other b hv hn hb => ?_, fun h => absurd ha (h text a hvar hne)⟩
      exact Option.some.inj (hr.symm.trans ((hsaid b).mpr ⟨other, ⟨hv, hn⟩, hb⟩))
    · exact fun h => (h.said text a hvar hne ha).symm
  | none =>
    have hnone : ∀ text a, env.var? name = some text → text ≠ "" → ¬ Says text.toList a := by
      intro text a hv hn ha
      have := (hsaid a).mpr ⟨text, ⟨hv, hn⟩, ha⟩
      rw [hr] at this
      cases this
    rw [Option.getD_none]
    constructor
    · rintro rfl
      exact ⟨fun text a hv hn ha => absurd ha (hnone text a hv hn), fun _ => rfl⟩
    · exact fun h => (h.unsaid hnone).symm

namespace RetrySettings

/-- Whether a text spells a count of 32 bits: a number, behind a plus sign at most. -/
def SpellsCount (text : List Char) (count : UInt32) : Prop :=
  ∃ number, (text = number ∨ text = '+' :: number) ∧ Numeral.Denotes number count.toNat

/-- READ: a count is read from exactly the texts that spell it. -/
theorem count?_eq_some_iff {text : String} {count : UInt32} :
    count? text = some count ↔ SpellsCount text.toList count := by
  have hfits (n : Nat) : (if n < UInt32.size then some (UInt32.ofNat n) else none) = some count ↔
      n = count.toNat := by
    constructor
    · intro h
      split at h
      · rename_i hn
        rw [← Option.some.inj h, UInt32.toNat_ofNat_of_lt' hn]
      · cases h
    · rintro rfl
      rw [if_pos count.toNat_lt, UInt32.ofNat_toNat]
  unfold count? SpellsCount
  simp only [Option.bind_eq_bind, Option.bind_eq_some_iff, hfits, Numeral.read?_eq_some_iff,
    exists_eq_right]
  split
  · rename_i number htext
    rw [htext]
    constructor
    · exact fun h => ⟨number, Or.inr rfl, h⟩
    · rintro ⟨other, rfl | hother, h⟩
      · exact absurd (h.forall '+' List.mem_cons_self) (by decide)
      · exact (List.cons.inj hother).2 ▸ h
  · rename_i hplus
    constructor
    · exact fun h => ⟨text.toList, Or.inl rfl, h⟩
    · rintro ⟨other, hother | hother, h⟩
      · exact hother ▸ h
      · exact absurd hother (hplus other)

end RetrySettings

/-- SAID: a duration is read exactly where a text spells it, as a number of units that fits 64 bits,
    and is none everywhere else; and each of the three settings is what its own variable spells, or
    its default if that is not set, set to nothing or spells nothing. -/
theorem settings_exactly_said :
    (∀ text ms, Duration.parse? text = some ms ↔ Duration.Spells text.toList ms) ∧
    ∀ env settings, RetrySettings.ofEnvironment env = settings ↔
      IsSetting env "HTTP_MAX_RETRIES" RetrySettings.SpellsCount 3 settings.maxRetries ∧
      IsSetting env "HTTP_RETRY_BASE_DELAY" Duration.Spells 100 settings.baseDelay ∧
      IsSetting env "HTTP_CLIENT_TIMEOUT" Duration.Spells 10000 settings.timeout := by
  refine ⟨fun text ms => Duration.parse?_eq_some_iff, fun env settings => ?_⟩
  rw [← getD_bind_get?_eq_iff fun text count => RetrySettings.count?_eq_some_iff,
    ← getD_bind_get?_eq_iff fun text ms => Duration.parse?_eq_some_iff,
    ← getD_bind_get?_eq_iff fun text ms => Duration.parse?_eq_some_iff]
  constructor
  · rintro rfl
    exact ⟨rfl, rfl, rfl⟩
  · rintro ⟨hretries, hdelay, htimeout⟩
    cases settings
    simp only at hretries hdelay htimeout
    rw [← hretries, ← hdelay, ← htimeout]
    rfl

end CallTransfer
