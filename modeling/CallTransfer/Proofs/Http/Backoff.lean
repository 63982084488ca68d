import CallTransfer.Http.Backoff

/-!
    The delays between attempts, AS COMPUTED. In machine numbers a pause is exactly the base delay
    doubled, up to the longest span, and it grows with each retry by more than its random part. It
    is the sum with the random part that does not stop at the longest span: a pause of more than
    four fifths of it may crash, although it is none that was cut off.
-/

namespace CallTransfer.Backoff

variable {retries later : UInt32} {base more : UInt64} {jitter : Span}

/-- The nanoseconds of a base delay of so many milliseconds, doubled. -/
def product (retries : UInt32) (base : UInt64) : Nat :=
  base.toNat * 1000000 * Nat.pow 2 (min retries.toNat 31)

/-! ### Pauses -/

theorem toNat_pause_ofMilliseconds (retries : UInt32) (base : UInt64) :
    (pause retries (.ofMilliseconds base)).toNat =
      min (product retries base) Span.longest.toNat := by
  rw [toNat_pause, Span.toNat_ofMilliseconds, product]

/-- A pause that is not cut off is the product. -/
theorem toNat_pause_of_le (h : product retries base ≤ Span.longest.toNat) :
    (pause retries (.ofMilliseconds base)).toNat = product retries base := by
  rw [toNat_pause_ofMilliseconds, Nat.min_eq_left h]

theorem product_pos (hb : 0 < base) : 0 < product retries base :=
  Nat.mul_pos (Nat.mul_pos (UInt64.lt_iff_toNat_lt.mp hb) (by decide)) (Nat.two_pow_pos _)

theorem product_mono (hr : retries ≤ later) (hb : base ≤ more) :
    product retries base ≤ product later more := by
  have hdoubled : Nat.pow 2 (min retries.toNat 31) ≤ Nat.pow 2 (min later.toNat 31) := by
    rw [UInt32.le_iff_toNat_le] at hr
    exact Nat.pow_le_pow_right (by decide) (by omega)
  exact Nat.mul_le_mul (Nat.mul_le_mul_right _ (UInt64.le_iff_toNat_le.mp hb)) hdoubled

theorem pause_mono (hr : retries ≤ later) (hb : base ≤ more) :
    (pause retries (.ofMilliseconds base)).toNat ≤
      (pause later (.ofMilliseconds more)).toNat := by
  have hp := product_mono hr hb
  rw [toNat_pause_ofMilliseconds, toNat_pause_ofMilliseconds]
  omega

/-- One retry more doubles the product, 31 times. -/
theorem product_succ (h : retries < 31) (base : UInt64) :
    product (retries + 1) base = 2 * product retries base := by
  have hr : retries.toNat < 31 := UInt32.lt_iff_toNat_lt.mp h
  have hsucc : (retries + 1).toNat = retries.toNat + 1 := by
    rw [UInt32.toNat_add, UInt32.toNat_one]
    exact Nat.mod_eq_of_lt (by omega)
  have hmin : min (retries.toNat + 1) 31 = min retries.toNat 31 + 1 := by omega
  have hpow : Nat.pow 2 (min retries.toNat 31 + 1) = Nat.pow 2 (min retries.toNat 31) * 2 := rfl
  rw [product, product, hsucc, hmin, hpow, ← Nat.mul_assoc, Nat.mul_comm]

theorem toNat_pause_succ (h : retries < 31) (base : UInt64) :
    (pause (retries + 1) (.ofMilliseconds base)).toNat =
      min (2 * (pause retries (.ofMilliseconds base)).toNat) Span.longest.toNat := by
  rw [toNat_pause_ofMilliseconds, toNat_pause_ofMilliseconds, product_succ h]
  omega

/-! ### Delays -/

/-- A pause that is not cut off has a delay as long as that is not too long. -/
theorem delay_cases (h : product retries base ≤ Span.longest.toNat) (jitter : Span) :
    (∃ d, delay retries (.ofMilliseconds base) jitter = .ok d ∧
        d.toNat = product retries base + jitter.toNat) ∧
        product retries base + jitter.toNat ≤ Span.longest.toNat ∨
      delay retries (.ofMilliseconds base) jitter = .error .delay ∧
        Span.longest.toNat < product retries base + jitter.toNat := by
  cases hd : delay retries (.ofMilliseconds base) jitter with
  | ok d =>
    have hlength := lengthen_eq_ok_iff.mp hd
    rw [toNat_pause_of_le h] at hlength
    exact Or.inl ⟨⟨d, rfl, hlength⟩, hlength ▸ d.toNat_le_longest⟩
  | error crash =>
    obtain ⟨rfl, hlong⟩ := lengthen_eq_error_iff.mp hd
    rw [toNat_pause_of_le h] at hlong
    exact Or.inr ⟨rfl, hlong⟩

/-- Behind the longest span, any random part is too much. -/
theorem delay_of_longest_lt (h : Span.longest.toNat < product retries base) (jitter : Span) :
    delay retries (.ofMilliseconds base) jitter = .error .delay ↔ 0 < jitter.toNat := by
  have hp : (pause retries (.ofMilliseconds base)).toNat = Span.longest.toNat := by
    rw [toNat_pause_ofMilliseconds, Nat.min_eq_right (Nat.le_of_lt h)]
  rw [delay, lengthen_eq_error_iff, hp]
  exact ⟨fun hd => Nat.pos_of_lt_add_right hd.2, fun hj => ⟨rfl, Nat.lt_add_of_pos_right hj⟩⟩

/-- Delays grow: the next pause alone is longer than a pause with its random part. -/
theorem delay_lt_delay (hb : 0 < base) (hr : retries < 31)
    (hp : product (retries + 1) base ≤ Span.longest.toNat)
    (hj : 4 * jitter.toNat ≤ product retries base) (nextJitter : Span) :
    ∃ d, delay retries (.ofMilliseconds base) jitter = .ok d ∧
      ∀ next, delay (retries + 1) (.ofMilliseconds base) nextJitter = .ok next →
        d.toNat < next.toNat := by
  have hpos : 0 < product retries base := product_pos hb
  rw [product_succ hr] at hp
  have hle : product retries base ≤ Span.longest.toNat := by omega
  rcases delay_cases hle jitter with ⟨⟨d, hd, hlength⟩, -⟩ | ⟨-, hlong⟩
  · refine ⟨d, hd, fun next hn => ?_⟩
    have hnext := lengthen_eq_ok_iff.mp hn
    rw [toNat_pause_of_le (product_succ hr base ▸ hp), product_succ hr] at hnext
    omega
  · omega

/-- A delay shows how often the base delay was doubled, as its random part is less than another
    doubling. -/
theorem exponent?_of_toNat_eq {d : Span} (hb : 0 < base)
    (hj : 4 * jitter.toNat ≤ product retries base)
    (hd : d.toNat = product retries base + jitter.toNat) :
    exponent? (.ofMilliseconds base) d = some (min retries.toNat 31) := by
  have hbase : 0 < base.toNat := UInt64.lt_iff_toNat_lt.mp hb
  generalize hu : base.toNat * 1000000 = unit
  have hunit : 0 < unit := by omega
  have hproduct : product retries base = unit * Nat.pow 2 (min retries.toNat 31) := by
    rw [product, hu]
  have hpos : 0 < product retries base := product_pos hb
  have hlow : Nat.pow 2 (min retries.toNat 31) ≤ d.toNat / unit := by
    rw [Nat.le_div_iff_mul_le hunit, Nat.mul_comm, ← hproduct]
    omega
  have hhigh : d.toNat / unit < Nat.pow 2 (min retries.toNat 31 + 1) := by
    have hpow : Nat.pow 2 (min retries.toNat 31 + 1) = Nat.pow 2 (min retries.toNat 31) * 2 := rfl
    rw [Nat.div_lt_iff_lt_mul hunit, hpow, Nat.mul_comm _ unit, ← Nat.mul_assoc, ← hproduct]
    omega
  have hne : d.toNat / unit ≠ 0 := Nat.ne_of_gt (Nat.lt_of_lt_of_le (Nat.two_pow_pos _) hlow)
  rw [exponent?, Span.toNat_ofMilliseconds, hu, if_neg (Nat.ne_of_gt hunit)]
  exact congrArg some ((Nat.log2_eq_iff hne).mpr ⟨hlow, hhigh⟩)

/-! ### What a delay shows -/

/-- What the delay after so many retries shows of the doublings in it. -/
def shown (retries : UInt32) (base : UInt64) (jitter : Span) : Except Crash (Option Nat) :=
  (delay retries (.ofMilliseconds base) jitter).map (exponent? (.ofMilliseconds base))

/-- What is shown by a delay whose pause is not cut off. -/
theorem shown_eq (hb : 0 < base) (hp : product retries base ≤ Span.longest.toNat)
    (hj : 4 * jitter.toNat ≤ product retries base) : shown retries base jitter =
      if product retries base + jitter.toNat ≤ Span.longest.toNat then
        .ok (some (min retries.toNat 31))
      else .error .delay := by
  rcases delay_cases hp jitter with ⟨⟨d, hd, hlength⟩, hle⟩ | ⟨hd, hlong⟩
  · rw [shown, hd, if_pos hle, ← exponent?_of_toNat_eq hb hj hlength]
    rfl
  · rw [shown, hd, if_neg (Nat.not_le.mpr hlong)]
    rfl

/-- Whatever the random part is, the doublings are shown exactly if there is room for a quarter
    more. -/
theorem forall_shown_iff (hb : 0 < base) (hp : product retries base ≤ Span.longest.toNat) :
    (∀ jitter : Span, 4 * jitter.toNat ≤ product retries base →
        shown retries base jitter = .ok (some (min retries.toNat 31))) ↔
      product retries base + product retries base / 4 ≤ Span.longest.toNat := by
  constructor
  · intro h
    have hquarter : (Span.ofNanoseconds (product retries base / 4)).toNat =
        product retries base / 4 :=
      Span.toNat_ofNanoseconds (by omega)
    have hj : 4 * (Span.ofNanoseconds (product retries base / 4)).toNat ≤ product retries base := by
      omega
    have hshown := h _ hj
    rw [shown_eq hb hp hj, hquarter] at hshown
    split at hshown
    · assumption
    · cases hshown
  · intro h jitter hj
    rw [shown_eq hb hp hj, if_pos (by omega)]

/-- In the run that is followed there has to be room for an eighth more. -/
theorem doublings_eq (hb : 0 < base) (hp : product retries base ≤ Span.longest.toNat) :
    doublings retries.toNat base.toNat =
      if product retries base + product retries base / 8 ≤ Span.longest.toNat then
        .ok (some (min retries.toNat 31))
      else .error .delay := by
  have hmiddle : (middle (pause retries (.ofMilliseconds base))).toNat =
      product retries base / 8 := by
    rw [middle, toNat_pause_of_le hp]
    exact Span.toNat_ofNanoseconds (by omega)
  have hj : 4 * (middle (pause retries (.ofMilliseconds base))).toNat ≤ product retries base := by
    omega
  rw [doublings, UInt32.ofNat_toNat, UInt64.ofNat_toNat, ← hmiddle]
  exact shown_eq hb hp hj

/-- AS COMPUTED: a pause is the base delay doubled for every retry, 31 times at most, and cut off at
    the longest span. It does not get shorter, and while it is doubled and not cut off, delays grow,
    whatever their random parts are. A delay whose pause is not cut off shows the doublings, unless
    it crashes because it is longer than the longest span, so that the doublings are shown for sure
    exactly if there is room for a quarter more; and a delay whose pause is cut off crashes with any
    random part at all. -/
theorem delays_computed (retries : UInt32) (base : UInt64) :
    (pause retries (.ofMilliseconds base)).toNat =
        min (product retries base) Span.longest.toNat ∧
      (∀ later more, retries ≤ later → base ≤ more →
        (pause retries (.ofMilliseconds base)).toNat ≤
          (pause later (.ofMilliseconds more)).toNat) ∧
      (retries < 31 → (pause (retries + 1) (.ofMilliseconds base)).toNat =
        min (2 * (pause retries (.ofMilliseconds base)).toNat) Span.longest.toNat) ∧
      (0 < base → retries < 31 → product (retries + 1) base ≤ Span.longest.toNat →
        ∀ jitter nextJitter : Span, 4 * jitter.toNat ≤ product retries base →
          ∃ d, delay retries (.ofMilliseconds base) jitter = .ok d ∧
            ∀ next, delay (retries + 1) (.ofMilliseconds base) nextJitter = .ok next →
              d.toNat < next.toNat) ∧
      (0 < base → product retries base ≤ Span.longest.toNat →
        (∀ jitter : Span, 4 * jitter.toNat ≤ product retries base →
          shown retries base jitter =
            if product retries base + jitter.toNat ≤ Span.longest.toNat then
              .ok (some (min retries.toNat 31))
            else .error .delay) ∧
        ((∀ jitter : Span, 4 * jitter.toNat ≤ product retries base →
            shown retries base jitter = .ok (some (min retries.toNat 31))) ↔
          product retries base + product retries base / 4 ≤ Span.longest.toNat)) ∧
      (Span.longest.toNat < product retries base → ∀ jitter : Span,
        delay retries (.ofMilliseconds base) jitter = .error .delay ↔ 0 < jitter.toNat) :=
  ⟨toNat_pause_ofMilliseconds retries base, fun _ _ => pause_mono,
    fun hr => toNat_pause_succ hr base, fun hb hr hp _ nextJitter hj =>
      delay_lt_delay hb hr hp hj nextJitter,
    fun hb hp => ⟨fun _ => shown_eq hb hp, forall_shown_iff hb hp⟩, delay_of_longest_lt⟩

/-- The longest pause of the settings that hold by default, with a fifth more. -/
theorem delays_computed_default :
    (pause 2 (.ofMilliseconds 100)).toNat = 400000000 ∧
      shown 2 100 (.ofMilliseconds 80) = .ok (some 2) := by
  obtain ⟨hpause, -, -, -, hshown, -⟩ := delays_computed 2 100
  have hroom : product 2 100 + product 2 100 / 4 ≤ Span.longest.toNat := by decide
  exact ⟨hpause.trans (by decide),
    (hshown (by decide) (by decide)).2.mpr hroom (.ofMilliseconds 80) (by decide)⟩

/-- A pause that is about a second shorter than the longest span: in the middle of what its random
    part may be, it crashes. -/
theorem delays_computed_second :
    product 10 18014398509481983999 < Span.longest.toNat ∧
      doublings 10 18014398509481983999 = .error .delay := by
  have hp : product 10 18014398509481983999 < Span.longest.toNat := by decide
  exact ⟨hp, (doublings_eq (by decide) (Nat.le_of_lt hp)).trans (if_neg (by decide))⟩

end CallTransfer.Backoff
