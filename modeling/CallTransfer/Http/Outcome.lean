import CallTransfer.Failure
import CallTransfer.Text.Utf8

/-!
    How an attempt at an exchange ends. A body that came whole with a status from 200 to 299 is a
    SUCCESS; an exchange that broke off, and the statuses that may pass, can be tried again.
-/

namespace CallTransfer.Http

/-- How an attempt ends. -/
inductive Outcome where
  | success (body : Bytes)
  | interrupted (text : String)
  | refused (status : Nat) (body : String)
  deriving DecidableEq, Repr

/-- Whether a status is one of success. -/
def isSuccess (status : Nat) : Bool := 200 ≤ status && status ≤ 299

/-- Whether a status may pass. -/
def mayPass (status : Nat) : Bool :=
  status == 408 || status == 429 || (500 ≤ status && status ≤ 599)

/-- Whether trying again may help, when an exchange broke off or ended with a status. -/
def shouldRetry (interrupted : Bool) (status : Nat) : Bool := interrupted || mayPass status

theorem mayPass_iff (status : Nat) :
    mayPass status = true ↔ status = 408 ∨ status = 429 ∨ 500 ≤ status ∧ status ≤ 599 := by
  simp [mayPass, or_assoc]

namespace Outcome

/-- How an attempt ends that got a whole response. -/
def ofWhole (status : Nat) (body : Bytes) : Outcome :=
  if isSuccess status then success body else refused status (Text.Utf8.decodeLossy body)

/-- Whether trying again may help. -/
def isRetryable : Outcome → Bool
  | success _ => false
  | interrupted _ => shouldRetry true 0
  | refused status _ => shouldRetry false status

/-- What is said of an attempt that may be tried again. -/
def cause : Outcome → String
  | success _ => "no attempts made"
  | interrupted text => "transport error: " ++ text
  | refused status _ => "retryable status: " ++ toString status

/-- What an attempt that is not tried again comes to. -/
def result : Outcome → Except Failure Bytes
  | success body => .ok body
  | interrupted text => .error (.transport text)
  | refused status body => .error (.fatalStatus status body)

theorem cause_interrupted (text : String) :
    (interrupted text).cause = "transport error: " ++ text := rfl

theorem cause_refused (status : Nat) (body : String) :
    (refused status body).cause = "retryable status: " ++ toString status := rfl

theorem isRetryable_refused (status : Nat) (body : String) :
    (refused status body).isRetryable = mayPass status := rfl

end Outcome

end CallTransfer.Http
