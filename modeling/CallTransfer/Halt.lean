import CallTransfer.Failure

/-!
    Actions. An action changes a state and yields a value, or HALTS: it fails with one of the nine
    failures, or it crashes where an amount of time leaves its range. A halt keeps the state as the
    steps before it left it.
-/

namespace CallTransfer

/-- An amount of time out of range. -/
inductive Crash where
  /-- A lifetime that cannot be told in milliseconds. -/
  | lifetime
  /-- An instant that no calendar holds. -/
  | instant
  /-- A delay that cannot be lengthened. -/
  | delay
  deriving DecidableEq, Repr

/-- The wording of a crash. -/
def Crash.message : Crash → String
  | lifetime => "TimeDelta::seconds out of bounds"
  | instant => "\x60DateTime + TimeDelta\x60 overflowed"
  | delay => "overflow when adding durations"

/-- Why an action yields no value. -/
inductive Halt where
  | failed (failure : Failure)
  | crashed (crash : Crash)
  deriving DecidableEq, Repr

/-- What happens to a state of type `σ` until there is a value. -/
abbrev Act (σ : Type) := ExceptT Halt (StateM σ)

namespace Act

/-- Gives up with a failure. -/
def fail (failure : Failure) : Act σ α := throw (.failed failure)

/-- Crashes. -/
def crash (crash : Crash) : Act σ α := throw (.crashed crash)

/-- Goes on with a value that is known, or gives up. -/
def ofExcept (refuse : ε → Failure) : Except ε α → Act σ α
  | .ok a => pure a
  | .error e => fail (refuse e)

/-- An action that gives up in other words. -/
def rewording (reword : Failure → Failure) (act : Act σ α) : Act σ α := fun s =>
  match act s with
  | (.error (.failed failure), s) => (.error (.failed (reword failure)), s)
  | result => result

/-- An action on a part of a state. -/
def zoom (get : σ → τ) (set : τ → σ → σ) (act : Act τ α) : Act σ α := fun s =>
  match act (get s) with
  | (result, t) => (result, set t s)

/-! ### Running -/

theorem run_ofExcept_ok (refuse : ε → Failure) (a : α) (s : σ) :
    (ofExcept refuse (.ok a) : Act σ α) s = (.ok a, s) := rfl

theorem run_ofExcept_error (refuse : ε → Failure) (e : ε) (s : σ) :
    (ofExcept refuse (.error e) : Act σ α) s = (.error (.failed (refuse e)), s) := rfl

theorem run_bind (act : Act σ α) (next : α → Act σ β) (s : σ) :
    (act >>= next) s = ExceptT.bindCont next (act s).1 (act s).2 := rfl

/-- An action goes on from the value and the state that the one before it yields. -/
theorem run_bind_ok {act : Act σ α} {s t : σ} {a : α} (h : act s = (.ok a, t))
    (next : α → Act σ β) : (act >>= next) s = next a t := by
  rw [run_bind, h]
  rfl

/-- Nothing is done behind a halt. -/
theorem run_bind_error {act : Act σ α} {s t : σ} {halt : Halt} (h : act s = (.error halt, t))
    (next : α → Act σ β) : (act >>= next) s = (.error halt, t) := by
  rw [run_bind, h]
  rfl

/-- Two actions in a row yield a value exactly when both do, one after the other. -/
theorem run_bind_eq_ok_iff {act : Act σ α} {next : α → Act σ β} {s t : σ} {b : β} :
    (act >>= next) s = (.ok b, t) ↔ ∃ a u, act s = (.ok a, u) ∧ next a u = (.ok b, t) := by
  constructor
  · intro h
    rcases hs : act s with ⟨halt | a, u⟩
    · rw [run_bind_error hs] at h
      cases h
    · rw [run_bind_ok hs] at h
      exact ⟨a, u, rfl, h⟩
  · rintro ⟨a, u, ha, hb⟩
    rw [run_bind_ok ha]
    exact hb

/-- A failure is put in other words where it is one. -/
theorem run_rewording_failed {act : Act σ α} {s t : σ} {failure : Failure}
    (h : act s = (.error (.failed failure), t)) (reword : Failure → Failure) :
    rewording reword act s = (.error (.failed (reword failure)), t) := by
  simp only [rewording, h]

/-- A value is not put in other words. -/
theorem run_rewording_ok {act : Act σ α} {s t : σ} {a : α} (h : act s = (.ok a, t))
    (reword : Failure → Failure) : rewording reword act s = (.ok a, t) := by
  simp only [rewording, h]

/-- Putting failures in other words makes no value and takes none away. -/
theorem run_rewording_eq_ok_iff {reword : Failure → Failure} {act : Act σ α} {s t : σ} {a : α} :
    rewording reword act s = (.ok a, t) ↔ act s = (.ok a, t) := by
  constructor
  · intro h
    rcases hs : act s with ⟨(failure | crash) | b, u⟩
    · rw [run_rewording_failed hs] at h
      cases h
    · simp only [rewording, hs] at h
      cases h
    · rwa [run_rewording_ok hs] at h
  · exact fun h => run_rewording_ok h reword

end Act

end CallTransfer
