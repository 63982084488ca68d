import CallTransfer.Http.Retry
import CallTransfer.Proofs.Http.Verdict

/-!
    The round that DECIDES a call. A call goes through rounds, in each of which a request is
    authorised and an attempt is made with it. The first round that trying again cannot cure
    decides, or the last one if there is no such round. No pause crashes as long as the base delay
    is at most 10^12 milliseconds.
-/

namespace CallTransfer.Http

/-- The round that decides, of at most `retries` and one more: trying again cures all before it,
    and it is the last one or trying again does not cure it. -/
structure Decides (retries : Nat) (again : Nat → Prop) (i : Nat) : Prop where
  within : i ≤ retries
  before : ∀ j < i, again j
  ends : i = retries ∨ ¬ again i

/-- Only one round decides. -/
theorem Decides.unique {retries : Nat} {again : Nat → Prop} {i j : Nat}
    (hi : Decides retries again i) (hj : Decides retries again j) : i = j := by
  rcases Nat.lt_trichotomy i j with h | h | h
  · rcases hi.ends with he | he
    · have := hj.within
      omega
    · exact absurd (hj.before i h) he
  · exact h
  · rcases hj.ends with he | he
    · have := hi.within
      omega
    · exact absurd (hi.before j h) he

/-! ### Pauses -/

/-- Pauses and their random parts stay below the longest span. -/
theorem middleDelay_of_le {base : Nat} (hb : base ≤ 1000000000000) (retries : UInt32) :
    ∃ delay, Backoff.middleDelay retries (.ofMilliseconds (.ofNat base)) = .ok delay := by
  have hl : Span.longest.toNat = 18446744073709551615 * 1000000000 + 999999999 := rfl
  have hbase : (UInt64.ofNat base).toNat = base := by
    rw [UInt64.toNat_ofNat']
    exact Nat.mod_eq_of_lt (by omega)
  have hp := Backoff.toNat_pause_le retries (.ofMilliseconds (.ofNat base))
  rw [Span.toNat_ofMilliseconds, hbase] at hp
  cases hd : Backoff.middleDelay retries (.ofMilliseconds (.ofNat base)) with
  | ok delay => exact ⟨delay, rfl⟩
  | error crash =>
    have hlong := (Backoff.lengthen_eq_error_iff.mp hd).2
    rw [Backoff.middle, Span.toNat_ofNanoseconds (by omega)] at hlong
    omega

theorem run_waitFor {base : Nat} (hb : base ≤ 1000000000000) (made : Nat) (s : σ) :
    (waitFor base made : Act σ Unit) s = (.ok (), s) := by
  obtain ⟨delay, hd⟩ := middleDelay_of_le hb (.ofNat (made - 1))
  rw [waitFor, hd]
  split <;> rfl

/-! ### Rounds -/

/-- Whether another round follows one that ended in this way, if there is one left. -/
def Again (round : Except Halt Outcome) : Prop :=
  ∃ outcome, round = .ok outcome ∧ outcome.isRetryable = true

variable {base left made : Nat} {once : Act σ Outcome} {s t : σ}

/-- A round that trying again may cure is followed by the others. -/
theorem repeatFrom_again (hw : (waitFor base made : Act σ Unit) s = (.ok (), s))
    {outcome : Outcome} (h : once s = (.ok outcome, t)) (hr : outcome.isRetryable = true) :
    repeatFrom base once (left + 1) made s = repeatFrom base once left (made + 1) t := by
  rw [repeatFrom, Act.run_bind_ok hw, Act.run_bind_ok h]
  simp only [if_pos hr]

/-- A round that trying again does not cure, or the last one, is what rounds come to. -/
theorem repeatFrom_ends (hw : (waitFor base made : Act σ Unit) s = (.ok (), s))
    {round : Except Halt Outcome} (h : once s = (round, t)) (he : left = 0 ∨ ¬ Again round) :
    repeatFrom base once left made s = (round, t) := by
  cases round with
  | error halt =>
    rw [repeatFrom, Act.run_bind_ok hw, Act.run_bind_error h]
  | ok outcome =>
    rw [repeatFrom, Act.run_bind_ok hw, Act.run_bind_ok h]
    cases left with
    | zero => rfl
    | succ left =>
      have hr : ¬ outcome.isRetryable = true := fun hr =>
        he.elim (Nat.succ_ne_zero left) fun ha => ha ⟨outcome, rfl, hr⟩
      simp only [if_neg hr]
      rfl

/-- Rounds come to the one that decides, and leave the state as that one does. `stage k` is the
    state after `k` rounds. -/
theorem repeatFrom_decides (hb : base ≤ 1000000000000) {stage : Nat → σ}
    {round : Nat → Except Halt Outcome} (h : ∀ k, once (stage k) = (round k, stage (k + 1))) :
    ∀ left made, ∃ i, made ≤ i ∧ i ≤ made + left ∧ (∀ j, made ≤ j → j < i → Again (round j)) ∧
      (i = made + left ∨ ¬ Again (round i)) ∧
      repeatFrom base once left made (stage made) = (round i, stage (i + 1))
  | 0, made =>
    ⟨made, Nat.le_refl made, Nat.le_refl made, fun j h1 h2 => absurd h2 (Nat.not_lt.mpr h1),
      Or.inl rfl, repeatFrom_ends (run_waitFor hb made _) (h made) (Or.inl rfl)⟩
  | left + 1, made => by
    by_cases ha : Again (round made)
    · obtain ⟨outcome, ho, hr⟩ := ha
      obtain ⟨i, h1, h2, h3, h4, h5⟩ := repeatFrom_decides hb h left (made + 1)
      refine ⟨i, by omega, by omega, ?_, ?_, ?_⟩
      · intro j hj hi
        rcases Nat.eq_or_lt_of_le hj with rfl | hj
        · exact ⟨outcome, ho, hr⟩
        · exact h3 j hj hi
      · exact h4.imp (fun e => by omega) id
      · rw [repeatFrom_again (run_waitFor hb made _) ((h made).trans (by rw [ho])) hr, h5]
    · exact ⟨made, Nat.le_refl made, Nat.le_add_right .., fun j h1 h2 => by omega, Or.inr ha,
        repeatFrom_ends (run_waitFor hb made _) (h made) (Or.inr ha)⟩

/-! ### Calls -/

/-- What a call comes to that is decided by a round, with so many retries at most. -/
def answerOf (retries : Nat) : Except Halt Outcome → Except Halt Bytes
  | .ok outcome => outcome.verdict.ending retries
  | .error halt => .error halt

/-- What a call comes to that says it has made so many attempts, by the round that it ends with. -/
def concluded (attempts : Nat) : Except Halt Outcome → Except Halt Bytes
  | .ok outcome =>
    if outcome.isRetryable then
      .error (.failed (.retriesExhausted attempts outcome.cause))
    else outcome.result.mapError .failed
  | .error halt => .error halt

theorem answerOf_eq (retries : Nat) (round : Except Halt Outcome) :
    answerOf retries round = concluded (retries + 1) round := by
  cases round with
  | error halt => rfl
  | ok outcome =>
    rw [answerOf, concluded]
    cases hc : outcome.isRetryable with
    | true => rw [Outcome.verdict_of_isRetryable hc, Verdict.ending, if_pos rfl]
    | false =>
      rw [Outcome.ending_of_not_isRetryable hc, if_neg (by nofun)]
      cases outcome.result <;> rfl

variable {settings : RetrySettings} {attempt : Url → Request → Act σ Outcome}
  {authorize : Option (Act σ String)} {request : Request} {url : Url}

/-- A call for a URL comes to what its rounds come to. -/
theorem fetch_of_rounds (hu : Url.parse request.url = .ok url) {s t : σ}
    {round : Except Halt Outcome}
    (h : repeatFrom settings.baseDelay (authorized authorize request >>= attempt url)
      settings.maxRetries.toNat 0 s = (round, t)) :
    fetch settings attempt authorize request s =
      (concluded (settings.maxRetries + 1).toNat round, t) := by
  rw [fetch, hu, Act.run_bind_ok (Act.run_ofExcept_ok _ url s)]
  cases round with
  | error halt => exact Act.run_bind_error h _
  | ok outcome =>
    refine (Act.run_bind_ok h _).trans ?_
    rw [concluded]
    cases outcome.isRetryable with
    | true => rfl
    | false => cases outcome.result <;> rfl

/-- Nothing is done about a text that is no URL. -/
theorem fetch_of_error {fault : Url.Fault} (h : Url.parse request.url = .error fault) (s : σ) :
    fetch settings attempt authorize request s =
      (.error (.failed (.validation ("invalid URL " ++ request.url ++ ": " ++ fault.message))),
        s) := by
  rw [fetch, h, Act.run_bind_error (Act.run_ofExcept_error _ _ s)]

/-- The number in 32 bits is the one that is meant unless it is one too large for them. -/
theorem toNat_attempts_iff (settings : RetrySettings) :
    (settings.maxRetries + 1).toNat = settings.maxRetries.toNat + 1 ↔
      settings.maxRetries.toNat < 4294967295 := by
  have hlt := settings.maxRetries.toNat_lt
  rw [UInt32.toNat_add, UInt32.toNat_one]
  omega

/-- DECIDED: a call comes to what the round comes to that decides it, and leaves the state as that
    round does. -/
theorem fetch_decides (hm : settings.maxRetries.toNat < 4294967295)
    (hb : settings.baseDelay ≤ 1000000000000) (hu : Url.parse request.url = .ok url)
    {stage : Nat → σ} {round : Nat → Except Halt Outcome}
    (h : ∀ k, (authorized authorize request >>= attempt url) (stage k) =
      (round k, stage (k + 1))) :
    ∃ i, Decides settings.maxRetries.toNat (fun k => Again (round k)) i ∧
      fetch settings attempt authorize request (stage 0) =
        (answerOf settings.maxRetries.toNat (round i), stage (i + 1)) := by
  obtain ⟨i, -, h2, h3, h4, h5⟩ := repeatFrom_decides hb h settings.maxRetries.toNat 0
  rw [Nat.zero_add] at h2 h4
  refine ⟨i, ⟨h2, fun j hj => h3 j (Nat.zero_le j) hj, h4⟩, ?_⟩
  rw [fetch_of_rounds hu h5, (toNat_attempts_iff settings).mpr hm, answerOf_eq]

end CallTransfer.Http
