import CallTransfer.Proofs.Gateway.Authorisation
import CallTransfer.Proofs.Gateway.Rounds

/-!
    How an invocation FAILS, and what it has done by then. Its inputs are refused before anything
    goes out; a secret or a token that cannot be had, for whatever reason, is a failure to
    authorise; and whatever else is told is told of the last attempt at the transfer.
-/

namespace CallTransfer

/-! ### Inputs -/

namespace Check

/-- Whether a check refuses nothing but its input. -/
def Validates (x : Except Failure α) : Prop :=
  ∀ failure, x = .error failure → ∃ text, failure = .validation text

theorem validates_ok (a : α) : Validates (.ok a) := nofun

/-- Checks in a row refuse nothing but input if they do so one by one. -/
theorem Validates.bind {x : Except Failure α} {next : α → Except Failure β} (hx : Validates x)
    (hnext : ∀ a, Validates (next a)) : Validates (x >>= next) := by
  cases x with
  | error failure =>
    rintro _ ⟨⟩
    exact hx failure rfl
  | ok a => exact hnext a

theorem Validates.map {x : Except Failure α} (hx : Validates x) (f : α → β) :
    Validates (x.map f) := by
  cases x with
  | error failure =>
    rintro _ ⟨⟩
    exact hx failure rfl
  | ok a => exact validates_ok (f a)

end Check

namespace Plan

open Check

variable {env : Environment} {event : Event}

end Plan

/-! ### Endings -/

namespace Gateway

open Http (Attempt Network Outcome Again carrying concluded)

variable {retrieve : String → Act World Credentials} {settings : Settings} {event : Event}
  {plan : Plan} {w v after : World} {failure : Failure}

end Gateway

end CallTransfer
