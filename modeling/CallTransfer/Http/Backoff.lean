import CallTransfer.Halt
import CallTransfer.Span

/-!
    The pause before a retry: the base delay doubled with every retry, 31 times at most, and then
    lengthened by a random part of less than a quarter. Doubling stops at the longest span, but
    lengthening does not: a delay that is longer than that CRASHES. Where a single run is followed,
    the random part is the middle one.
-/

namespace CallTransfer.Backoff

/-- How often a delay is doubled at most. -/
def maxDoublings : UInt32 := 31

/-- A power in 32 bits, or the largest number in them. -/
def power (base exponent : UInt32) : UInt32 :=
  if Nat.pow base.toNat exponent.toNat < UInt32.size then .ofNat (Nat.pow base.toNat exponent.toNat)
  else 4294967295

/-- The pause after so many retries, the random part apart. -/
def pause (retries : UInt32) (base : Span) : Span :=
  base.times (power 2 (min retries maxDoublings))

/-- A pause with its random part. -/
def lengthen (pause jitter : Span) : Except Crash Span :=
  match pause.plus? jitter with
  | some delay => .ok delay
  | none => .error .delay

/-- The delay after so many retries. -/
def delay (retries : UInt32) (base jitter : Span) : Except Crash Span :=
  lengthen (pause retries base) jitter

/-- The middle one of the random parts that a pause may have. -/
def middle (pause : Span) : Span := .ofNanoseconds (pause.toNat / 8)

/-- The delay of the run that is followed. -/
def middleDelay (retries : UInt32) (base : Span) : Except Crash Span :=
  delay retries base (middle (pause retries base))

/-- How often the base delay was doubled in a delay, as far as the delay shows it. -/
def exponent? (base delay : Span) : Option Nat :=
  if base.toNat = 0 then none else some (delay.toNat / base.toNat).log2

/-- How often a base delay of so many milliseconds is doubled. -/
def doublings (retries base : Nat) : Except Crash (Option Nat) :=
  (middleDelay (.ofNat retries) (.ofMilliseconds (.ofNat base))).map
    (exponent? (.ofMilliseconds (.ofNat base)))

/-! ### Pauses -/

theorem toNat_min (a b : UInt32) : (min a b).toNat = min a.toNat b.toNat := by
  rw [Std.min_eq_if]
  split <;> rename_i h <;> rw [UInt32.le_iff_toNat_le] at h <;> omega

/-- No power that is taken here exceeds 32 bits. -/
theorem toNat_power (retries : UInt32) :
    (power 2 (min retries maxDoublings)).toNat = Nat.pow 2 (min retries.toNat 31) := by
  have hmin : (min retries maxDoublings).toNat = min retries.toNat 31 := toNat_min _ _
  have hpow : Nat.pow 2 (min retries.toNat 31) < UInt32.size :=
    Nat.lt_of_le_of_lt (Nat.pow_le_pow_right (by decide) (Nat.min_le_right _ _))
      (by decide : Nat.pow 2 31 < UInt32.size)
  rw [power, hmin]
  simp only [UInt32.reduceToNat]
  rw [if_pos hpow, UInt32.toNat_ofNat', Nat.mod_eq_of_lt hpow]

/-- A pause is the base delay doubled, if it is not too long. -/
theorem toNat_pause (retries : UInt32) (base : Span) : (pause retries base).toNat =
    min (base.toNat * Nat.pow 2 (min retries.toNat 31)) Span.longest.toNat := by
  rw [pause, Span.toNat_times, toNat_power]

theorem toNat_pause_le (retries : UInt32) (base : Span) :
    (pause retries base).toNat ≤ base.toNat * 2147483648 := by
  rw [toNat_pause]
  refine Nat.le_trans (Nat.min_le_left _ _) (Nat.mul_le_mul_left _ ?_)
  exact Nat.pow_le_pow_right (by decide) (Nat.min_le_right _ _)

/-! ### Delays -/

/-- A delay is as long as the pause and its random part are together. -/
theorem lengthen_eq_ok_iff {pause jitter delay : Span} :
    lengthen pause jitter = .ok delay ↔ delay.toNat = pause.toNat + jitter.toNat := by
  rw [← Span.plus?_eq_some_iff, lengthen]
  cases pause.plus? jitter with
  | none => exact ⟨nofun, nofun⟩
  | some found => exact ⟨fun h => congrArg some (Except.ok.inj h),
      fun h => congrArg Except.ok (Option.some.inj h)⟩

/-- A delay crashes exactly if it is longer than the longest span. -/
theorem lengthen_eq_error_iff {pause jitter : Span} {crash : Crash} :
    lengthen pause jitter = .error crash ↔
      crash = .delay ∧ Span.longest.toNat < pause.toNat + jitter.toNat := by
  rw [lengthen, Span.eq_of_forall fun d => Span.plus?_eq_some_iff]
  split
  · rename_i delay h
    split at h
    · rename_i hle
      exact ⟨nofun, fun hlt => absurd hle (Nat.not_le.mpr hlt.2)⟩
    · cases h
  · rename_i h
    split at h
    · cases h
    · rename_i hle
      exact ⟨fun hc => ⟨(Except.error.inj hc).symm, Nat.lt_of_not_le hle⟩,
        fun hc => hc.1 ▸ rfl⟩

end CallTransfer.Backoff
