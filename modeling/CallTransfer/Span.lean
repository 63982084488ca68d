/-!
    Spans of time: SECONDS of 64 bits and nanoseconds that make up less than one more. Both are
    machine numbers, so that every step of an operation wraps around unless it is checked. A span
    that does not fit is nothing, or the longest one where that is asked for; what fits is exact.
-/

namespace CallTransfer

/-- A span of time. -/
structure Span where
  seconds : UInt64
  nanoseconds : UInt32
  inSecond : nanoseconds.toNat < 1000000000
  deriving DecidableEq, Repr

namespace Span

/-- All nanoseconds of a span. -/
def toNat (d : Span) : Nat := d.seconds.toNat * 1000000000 + d.nanoseconds.toNat

/-- The longest span. -/
def longest : Span := ⟨18446744073709551615, 999999999, by decide⟩

theorem toNat_le_longest (d : Span) : d.toNat ≤ longest.toNat := by
  have hl : longest.toNat = 18446744073709551615 * 1000000000 + 999999999 := rfl
  have hs := d.seconds.toNat_lt
  have hn := d.inSecond
  unfold toNat at *
  omega

/-- Spans of equally many nanoseconds are the same. -/
theorem toNat_inj {d e : Span} : d.toNat = e.toNat ↔ d = e := by
  refine ⟨fun h => ?_, fun h => h ▸ rfl⟩
  have hd := d.inSecond
  have he := e.inSecond
  unfold toNat at h
  have hs : d.seconds = e.seconds := UInt64.toNat_inj.mp (by omega)
  have hn : d.nanoseconds = e.nanoseconds := UInt32.toNat_inj.mp (by omega)
  cases d
  cases e
  simp only at hs hn
  subst hs hn
  rfl

/-! ### Checked steps -/

/-- A product in 64 bits, if it fits. -/
def mul? (a b : UInt64) : Option UInt64 :=
  if a.toNat * b.toNat < UInt64.size then some (a * b) else none

/-- A sum in 64 bits, if it fits. -/
def add? (a b : UInt64) : Option UInt64 :=
  if a.toNat + b.toNat < UInt64.size then some (a + b) else none

/-- What whole seconds leave of so many nanoseconds. -/
def rest (n : UInt64) : UInt32 := (n % 1000000000).toUInt32

theorem mul?_eq_some_iff {a b c : UInt64} : mul? a b = some c ↔ c.toNat = a.toNat * b.toNat := by
  have hc := c.toNat_lt
  unfold mul?
  constructor
  · intro h
    split at h
    · rename_i hab
      rw [← Option.some.inj h, UInt64.toNat_mul, Nat.mod_eq_of_lt hab]
    · cases h
  · intro h
    have hab : a.toNat * b.toNat < UInt64.size := h ▸ hc
    rw [if_pos hab]
    exact congrArg some (UInt64.toNat_inj.mp (by rw [UInt64.toNat_mul, Nat.mod_eq_of_lt hab, h]))

theorem add?_eq_some_iff {a b c : UInt64} : add? a b = some c ↔ c.toNat = a.toNat + b.toNat := by
  have hc := c.toNat_lt
  unfold add?
  constructor
  · intro h
    split at h
    · rename_i hab
      rw [← Option.some.inj h, UInt64.toNat_add, Nat.mod_eq_of_lt hab]
    · cases h
  · intro h
    have hab : a.toNat + b.toNat < UInt64.size := h ▸ hc
    rw [if_pos hab]
    exact congrArg some (UInt64.toNat_inj.mp (by rw [UInt64.toNat_add, Nat.mod_eq_of_lt hab, h]))

theorem toNat_rest (n : UInt64) : (rest n).toNat = n.toNat % 1000000000 := by
  have h : n.toNat % 1000000000 < 1000000000 := Nat.mod_lt _ (by decide)
  rw [rest, UInt64.toNat_toUInt32, UInt64.toNat_mod]
  exact Nat.mod_eq_of_lt (Nat.lt_trans h (by decide))

theorem rest_lt (n : UInt64) : (rest n).toNat < 1000000000 := by
  rw [toNat_rest]
  exact Nat.mod_lt _ (by decide)

/-! ### Spans of a length -/

/-- A span of so many milliseconds. -/
def ofMilliseconds (n : UInt64) : Span := ⟨n / 1000, rest (n % 1000 * 1000000), rest_lt _⟩

/-- A span of so many nanoseconds, as far as the seconds reach. -/
def ofNanoseconds (n : Nat) : Span where
  seconds := .ofNat (n / 1000000000)
  nanoseconds := .ofNat (n % 1000000000)
  inSecond := by
    have h : n % 1000000000 < 1000000000 := Nat.mod_lt _ (by decide)
    rwa [UInt32.toNat_ofNat', Nat.mod_eq_of_lt (Nat.lt_trans h (by decide))]

theorem toNat_ofMilliseconds (n : UInt64) : (ofMilliseconds n).toNat = n.toNat * 1000000 := by
  have h : n.toNat % 1000 < 1000 := Nat.mod_lt _ (by decide)
  have hmod : (n % 1000 * 1000000).toNat = n.toNat % 1000 * 1000000 := by
    rw [UInt64.toNat_mul, UInt64.toNat_mod]
    exact Nat.mod_eq_of_lt (by simp only [UInt64.reduceToNat]; omega)
  rw [toNat, ofMilliseconds, toNat_rest, hmod, UInt64.toNat_div]
  simp only [UInt64.reduceToNat]
  omega

theorem toNat_ofNanoseconds {n : Nat} (h : n ≤ longest.toNat) : (ofNanoseconds n).toNat = n := by
  have hl : longest.toNat = 18446744073709551615 * 1000000000 + 999999999 := rfl
  have hr : n % 1000000000 < 1000000000 := Nat.mod_lt _ (by decide)
  rw [toNat, ofNanoseconds, UInt64.toNat_ofNat', UInt32.toNat_ofNat']
  omega

/-! ### Operations -/

/-- So many times a span: what the nanoseconds come to is carried over to the seconds. -/
def times? (d : Span) (k : UInt32) : Option Span := do
  let total := d.nanoseconds.toUInt64 * k.toUInt64
  let seconds ← mul? d.seconds k.toUInt64
  let seconds ← add? seconds (total / 1000000000)
  return ⟨seconds, rest total, rest_lt total⟩

/-- So many times a span, but no more than the longest one. -/
def times (d : Span) (k : UInt32) : Span := (d.times? k).getD longest

/-- The nanoseconds of two spans are less than two seconds together. -/
theorem toNat_add_nanoseconds (d e : Span) :
    (d.nanoseconds + e.nanoseconds).toNat = d.nanoseconds.toNat + e.nanoseconds.toNat := by
  have hd := d.inSecond
  have he := e.inSecond
  rw [UInt32.toNat_add]
  exact Nat.mod_eq_of_lt (by omega)

theorem toNat_add_sub_second {d e : Span}
    (h : ¬ (d.nanoseconds + e.nanoseconds).toNat < 1000000000) :
    (d.nanoseconds + e.nanoseconds - 1000000000).toNat =
      d.nanoseconds.toNat + e.nanoseconds.toNat - 1000000000 := by
  rw [UInt32.toNat_sub_of_le _ _ (UInt32.le_iff_toNat_le.mpr (Nat.le_of_not_lt h)),
    toNat_add_nanoseconds]
  rfl

/-- Two spans together: one second is carried over if the nanoseconds make up one. -/
def plus? (d e : Span) : Option Span := do
  let seconds ← add? d.seconds e.seconds
  if h : (d.nanoseconds + e.nanoseconds).toNat < 1000000000 then
    return ⟨seconds, d.nanoseconds + e.nanoseconds, h⟩
  else
    let seconds ← add? seconds 1
    return ⟨seconds, d.nanoseconds + e.nanoseconds - 1000000000, by
      have hd := d.inSecond
      have he := e.inSecond
      rw [toNat_add_sub_second h]
      omega⟩

/-! ### What operations come to -/

/-- A product is found exactly where there is one. -/
theorem times?_eq_some_iff {d e : Span} {k : UInt32} :
    d.times? k = some e ↔ e.toNat = d.toNat * k.toNat := by
  have htotal : (d.nanoseconds.toUInt64 * k.toUInt64).toNat = d.nanoseconds.toNat * k.toNat := by
    rw [UInt64.toNat_mul, UInt32.toNat_toUInt64, UInt32.toNat_toUInt64]
    have hle := Nat.mul_le_mul (Nat.le_of_lt d.inSecond) (Nat.le_of_lt k.toNat_lt)
    exact Nat.mod_eq_of_lt (Nat.lt_of_le_of_lt hle (by decide))
  have hproduct : d.toNat * k.toNat =
      d.seconds.toNat * k.toNat * 1000000000 + d.nanoseconds.toNat * k.toNat := by
    rw [toNat, Nat.add_mul, Nat.mul_right_comm]
  rw [hproduct, ← htotal]
  unfold times?
  simp only [Option.bind_eq_bind, Option.bind_eq_some_iff, mul?_eq_some_iff, add?_eq_some_iff,
    UInt64.toNat_div, UInt32.toNat_toUInt64, Option.pure_def, Option.some.injEq,
    UInt64.reduceToNat]
  constructor
  · rintro ⟨product, hp, seconds, hs, rfl⟩
    rw [toNat, toNat_rest, hs, hp]
    omega
  · intro h
    have he := e.inSecond
    have hs : e.seconds.toNat = d.seconds.toNat * k.toNat +
        (d.nanoseconds.toUInt64 * k.toUInt64).toNat / 1000000000 := by
      rw [toNat] at h
      omega
    have hp : (UInt64.ofNat (d.seconds.toNat * k.toNat)).toNat = d.seconds.toNat * k.toNat := by
      rw [UInt64.toNat_ofNat']
      exact Nat.mod_eq_of_lt (Nat.lt_of_le_of_lt (hs ▸ Nat.le_add_right _ _) e.seconds.toNat_lt)
    refine ⟨_, hp, e.seconds, hp.symm ▸ hs, toNat_inj.mp ?_⟩
    rw [h, toNat, toNat_rest, hs]
    omega

/-- A sum is found exactly where there is one. -/
theorem plus?_eq_some_iff {d e f : Span} :
    d.plus? e = some f ↔ f.toNat = d.toNat + e.toNat := by
  have hd := d.inSecond
  have he := e.inSecond
  have hf := f.inSecond
  unfold plus?
  simp only [Option.bind_eq_bind, Option.bind_eq_some_iff, add?_eq_some_iff]
  split
  · rename_i h
    simp only [Option.pure_def, Option.some.injEq]
    rw [toNat_add_nanoseconds] at h
    constructor
    · rintro ⟨seconds, hs, rfl⟩
      simp only [toNat, toNat_add_nanoseconds, hs]
      omega
    · intro hsum
      unfold toNat at hsum
      refine ⟨f.seconds, by omega, toNat_inj.mp ?_⟩
      simp only [toNat, toNat_add_nanoseconds]
      omega
  · rename_i h
    simp only [Option.bind_eq_some_iff, add?_eq_some_iff, Option.pure_def, Option.some.injEq]
    have hcarry := toNat_add_sub_second h
    rw [toNat_add_nanoseconds] at h
    constructor
    · rintro ⟨both, hb, seconds, hs, rfl⟩
      simp only [toNat, hcarry, hs, hb, UInt64.toNat_one]
      omega
    · intro hsum
      unfold toNat at hsum
      have hb : (d.seconds + e.seconds).toNat = d.seconds.toNat + e.seconds.toNat := by
        rw [UInt64.toNat_add]
        exact Nat.mod_eq_of_lt (by have := f.seconds.toNat_lt; omega)
      refine ⟨_, hb, f.seconds, by rw [hb, UInt64.toNat_one]; omega, toNat_inj.mp ?_⟩
      simp only [toNat, hcarry]
      omega

/-- What is found exactly where a span is so long is that span, if it is not too long. -/
theorem eq_of_forall {found : Option Span} {n : Nat} (h : ∀ d, found = some d ↔ d.toNat = n) :
    found = if n ≤ longest.toNat then some (ofNanoseconds n) else none := by
  split
  · rename_i hn
    exact (h _).mpr (toNat_ofNanoseconds hn)
  · rename_i hn
    refine Option.eq_none_iff_forall_ne_some.mpr fun d hd => hn ?_
    rw [← (h d).mp hd]
    exact d.toNat_le_longest

theorem toNat_times (d : Span) (k : UInt32) :
    (d.times k).toNat = min (d.toNat * k.toNat) longest.toNat := by
  rw [times, eq_of_forall fun e => times?_eq_some_iff]
  split
  · rename_i h
    rw [Option.getD_some, toNat_ofNanoseconds h, Nat.min_eq_left h]
  · rename_i h
    rw [Option.getD_none, Nat.min_eq_right (Nat.le_of_not_le h)]

end Span

end CallTransfer
