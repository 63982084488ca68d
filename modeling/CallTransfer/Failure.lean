/-!
    Failures. Every way in which the gateway can refuse or fail is one of nine kinds, and the
    wording of each kind stands in one function. Only a transport failure and a retryable status
    can be cured by trying again.
-/

namespace CallTransfer

/-- Why no answer could be given. -/
inductive Failure where
  /-- The input does not allow a request. -/
  | validation (text : String)
  /-- Credentials could not be had or were refused. -/
  | auth (text : String)
  /-- An exchange broke off. -/
  | transport (text : String)
  /-- A status that may pass. -/
  | retryableStatus (status : Nat) (body : String)
  /-- A status that will not pass. -/
  | fatalStatus (status : Nat) (body : String)
  /-- All attempts failed in ways that may pass; the cause is the last one's. -/
  | retriesExhausted (attempts : Nat) (cause : String)
  /-- The backend's answer has the wrong shape. -/
  | responseShape (text : String)
  /-- The settings do not allow a start. -/
  | config (text : String)
  /-- Anything else. -/
  | internal (text : String)
  deriving DecidableEq, Repr

namespace Failure

/-- The wording of a failure. -/
def message : Failure → String
  | validation text => "Validation error: " ++ text
  | auth text => "Authentication failed: " ++ text
  | transport text => "Transport error: " ++ text
  | retryableStatus status _ => "request returned retryable status: " ++ toString status
  | fatalStatus status body =>
    "request returned non-2xx status: " ++ toString status ++ ", body: " ++ body
  | retriesExhausted attempts cause =>
    "request failed after " ++ toString attempts ++ " attempts: " ++ cause
  | responseShape text => "Invalid response: " ++ text
  | config text => "Configuration error: " ++ text
  | internal text => "Internal error: " ++ text

/-- Whether trying again may help. -/
def isRetryable : Failure → Bool
  | transport _ | retryableStatus _ _ => true
  | _ => false

/-- A failure to authorise: the same failure if it is one, else one that quotes it. -/
def asAuth : Failure → Failure
  | auth text => auth text
  | other => auth other.message

/-- The status of a response that was refused. -/
def status? : Failure → Option Nat
  | retryableStatus status _ | fatalStatus status _ => some status
  | _ => none

end Failure

end CallTransfer
