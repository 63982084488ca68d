import CallTransfer.Http.Backoff
import CallTransfer.Http.Outcome
import CallTransfer.Http.Request
import CallTransfer.Settings.Basic
import CallTransfer.Url.Parser

/-!
    The retrying client. The first attempt whose outcome no retry can cure decides; if all attempts
    are used up before that, the last one is reported. Every attempt is authorised anew, unless the
    caller has done so, and an attempt that cannot be authorised ends the call. NO TIME PASSES in a
    call: of a pause between attempts it is told only whether computing its length crashes, and
    neither a pause nor an attempt puts a clock on.
-/

namespace CallTransfer.Http

/-- The request of one attempt: authorised by `authorize` unless it is already. -/
def authorized (authorize : Option (Act σ String)) (request : Request) : Act σ Request :=
  match authorize with
  | none => pure request
  | some act =>
    if request.isAuthorized then pure request
    else do
      let value ← Act.rewording Failure.asAuth act
      if isHeaderValue value then return request.withHeader (authorization value)
      else Act.fail (.auth "authorization header contains invalid characters")

/-- The pause before an attempt that is not the first. Its length is computed, with the random part
    in the middle of its range, only because that may crash. -/
def waitFor (base made : Nat) : Act σ Unit :=
  if 0 < made then
    match Backoff.middleDelay (.ofNat (made - 1)) (.ofMilliseconds (.ofNat base)) with
    | .ok _ => pure ()
    | .error crash => Act.crash crash
  else pure ()

/-- The outcome of the deciding attempt, or of the last one; `left` retries are left and `made`
    attempts have been made. -/
def repeatFrom (base : Nat) (once : Act σ Outcome) (left made : Nat) : Act σ Outcome := do
  waitFor base made
  let outcome ← once
  match left with
  | 0 => return outcome
  | left + 1 =>
    if outcome.isRetryable then repeatFrom base once left (made + 1) else return outcome

/-- What a request is answered with, if all goes well; `attempt` makes one attempt. -/
def fetch (settings : RetrySettings) (attempt : Url → Request → Act σ Outcome)
    (authorize : Option (Act σ String)) (request : Request) : Act σ Bytes := do
  let url ← Act.ofExcept
    (fun fault => .validation ("invalid URL " ++ request.url ++ ": " ++ fault.message))
    (Url.parse request.url)
  let once := do attempt url (← authorized authorize request)
  let outcome ← repeatFrom settings.baseDelay once settings.maxRetries.toNat 0
  if outcome.isRetryable then
    Act.fail (.retriesExhausted (settings.maxRetries + 1).toNat outcome.cause)
  else Act.ofExcept id outcome.result

end CallTransfer.Http
