import CallTransfer.Auth
import CallTransfer.Gateway.Plan
import CallTransfer.Http.Retry
import CallTransfer.Transfer.Basic

/-!
    An invocation: plan, credentials, transfer. What it needs of the world around it are three
    SERVICES: one that makes an attempt at a request, one that issues tokens and one that keeps
    secrets.
-/

namespace CallTransfer

/-- What an invocation needs of a world of type `σ`. -/
structure Services (σ : Type) where
  attempt : Url → Http.Request → Act σ Http.Outcome
  issue : String → Credentials → Act σ String
  retrieve : String → Act σ Credentials

namespace Gateway

/-- A secret that could not be had, as a failure to authorise. -/
def secretRefusal : Failure → Failure
  | .auth text => .auth (quote text)
  | other => .auth (quote other.message)
where
  /-- The wording of a failure around its cause. -/
  quote (cause : String) : String :=
    "failed to retrieve OAuth credentials from Secrets Manager: " ++ cause

/-- Id and secret of the client: kept under a resource name if there is one, else given. -/
def client (retrieve : String → Act σ Credentials) (plan : Plan) : Act σ Credentials :=
  match plan.secretArn with
  | some arn => Act.rewording secretRefusal (retrieve arn)
  | none => pure ⟨plan.clientId.getD "", plan.clientSecret.getD ""⟩

/-- Where tokens are issued: the endpoint given, or else that of the region. -/
def authDomain (plan : Plan) : String :=
  plan.authDomain.getD (Region.tokenDomain plan.region)

/-- How the requests of an invocation are authorised. -/
def auth (retrieve : String → Act σ Credentials) (plan : Plan) : Act σ Auth := do
  let client ← client retrieve plan
  match Auth.ofKnown? (authDomain plan) client.id client.secret (plan.apiKey.getD "") with
  | some auth => return auth
  | none => Act.fail (.validation ("either apiKey (deprecated), " ++
      "oauthClientId/oauthClientSecret, or oauthSecretArn must be provided"))

/-- An invocation is authorised once its client is known, by the mode that fits. -/
theorem auth_eq_ok_iff {retrieve : String → Act σ Credentials} {plan : Plan} {s t : σ}
    {made : Auth} :
    auth retrieve plan s = (.ok made, t) ↔ ∃ c, client retrieve plan s = (.ok c, t) ∧
      Auth.ofKnown? (authDomain plan) c.id c.secret (plan.apiKey.getD "") = some made := by
  unfold auth
  rw [Act.run_bind_eq_ok_iff]
  constructor
  · rintro ⟨c, u, hc, h⟩
    cases ha : Auth.ofKnown? (authDomain plan) c.id c.secret (plan.apiKey.getD "") with
    | none =>
      rw [ha] at h
      cases h
    | some found =>
      rw [ha] at h
      cases h
      exact ⟨c, hc, ha⟩
  · rintro ⟨c, hc, ha⟩
    refine ⟨c, t, hc, ?_⟩
    rw [ha]
    rfl

/-- What a plan asks of the backend. -/
def transfer (settings : Settings) (event : Event) (plan : Plan) : Transfer where
  domain := plan.domain
  agent := plan.agent
  dtmfChars := settings.supportedDtmfChars
  version := settings.version
  event := event

/-- Handles an event. -/
def handle (settings : Settings) (services : Services σ) (event : Event) : Act σ Answer := do
  let plan ← Act.ofExcept id (Plan.make settings.env event)
  let auth ← auth services.retrieve plan
  Transfer.perform
    (Http.fetch settings.http services.attempt (some (auth.header services.issue)))
    (transfer settings event plan) plan.action

end Gateway

end CallTransfer
