import CallTransfer.Domain
import CallTransfer.Http.Request
import CallTransfer.Json.Writer
import CallTransfer.Secret.Credentials
import CallTransfer.Token.Desk
import CallTransfer.Token.Response

/-!
    The token fetcher, which exchanges the credentials of a client for a token. The exchange has two
    phases: a LOOK-UP in the cache and, if that finds nothing, a request whose answer COMPLETES it.
    Between the phases other exchanges may use the cache. No request is made of credentials that may
    not stand in a header.
-/

namespace CallTransfer.TokenExchange

/-- Where tokens are issued, below a token endpoint. -/
def path : String := "/v1/oauth/regionalToken"

/-- What is posted. -/
def payload : Json.Value := .object [("grant_type", .string "client_credentials")]

/-- The request for a token. -/
def request (domain : String) (client : Credentials) : Http.Request :=
  .postJson (Domain.bare domain ++ path) [Http.authorization client.basicHeader]
    (Json.write payload)

/-- A failed request, as a failure to authorise. -/
def refusal : Failure → Failure
  | .auth text => .auth text
  | .fatalStatus status body =>
    .auth ("token request returned non-2xx status: " ++ toString status ++ ", body: " ++ body)
  | other => .auth ("token request failed: " ++ other.message)

/-- The token in an answer, and how long it lives if that is told. -/
def granted (body : Bytes) : Except Failure (String × Option Int) :=
  match TokenResponse.decode? body with
  | none => .error (.auth ("error parsing token response: " ++ Json.notJson))
  | some r =>
    match r.accessToken.filter (· ≠ "") with
    | some token => .ok (token, r.expiresIn)
    | none => .error (.auth "missing access_token in token response")

/-- A body grants the token that it names, unless that is empty. -/
theorem granted_eq_ok_iff {body : Bytes} {token : String} {lifetime : Option Int} :
    granted body = .ok (token, lifetime) ↔ ∃ answer, TokenResponse.decode? body = some answer ∧
      answer.accessToken = some token ∧ token ≠ "" ∧ answer.expiresIn = lifetime := by
  constructor
  · intro h
    unfold granted at h
    split at h
    · cases h
    · rename_i answer hd
      split at h
      · rename_i found hf
        obtain ⟨ha, hn⟩ := Option.filter_eq_some_iff.mp hf
        cases h
        exact ⟨answer, hd, ha, of_decide_eq_true hn, rfl⟩
      · cases h
  · rintro ⟨answer, hd, ha, hn, rfl⟩
    have hf : answer.accessToken.filter (· ≠ "") = some token :=
      Option.filter_eq_some_iff.mpr ⟨ha, decide_eq_true hn⟩
    simp only [granted, hd, hf]

/-- The look-up. -/
def lookup (desk : TokenDesk) (client : String) : Option String :=
  desk.cache.get? desk.now client

/-- The completion, with the body of the answer: the token is handed out and kept. -/
def complete (desk : TokenDesk) (client : String) (body : Bytes) :
    Except Halt (String × TokenDesk) :=
  match granted body with
  | .error failure => .error (.failed failure)
  | .ok (token, lifetime) =>
    match desk.cache.set desk.now client token (lifetime.getD 0) with
    | .error crash => .error (.crashed crash)
    | .ok cache => .ok (token, { desk with cache })

/-- Whether the credentials of a client may stand in a header. It is not for unification to find
    out, which would have to encode them. -/
@[irreducible]
def isFit (client : Credentials) : Bool := Http.isHeaderValue client.basicHeader

/-- The failure of credentials that are not fit. -/
def unfit : Failure := .auth "client credentials contain invalid characters"

/-- Asks for a token of a client; `fetch` gets the answer of the token endpoint. -/
def ask (fetch : Http.Request → Act σ Bytes) (get : σ → TokenDesk)
    (set : TokenDesk → σ → σ) (domain : String) (client : Credentials) : Act σ String :=
  fun s => match Act.rewording refusal (fetch (request domain client)) s with
  | (.error halt, s) => (.error halt, s)
  | (.ok body, s) =>
    match complete (get s) client.id body with
    | .error halt => (.error halt, s)
    | .ok (token, desk) => (.ok token, set desk s)

/-- Gets a token of a client, the `get_token` of the fetcher: the one that the look-up finds, or else
    one that is asked for if the credentials are fit. -/
def issue (fetch : Http.Request → Act σ Bytes) (get : σ → TokenDesk)
    (set : TokenDesk → σ → σ) (domain : String) (client : Credentials) : Act σ String :=
  fun s => match lookup (get s) client.id with
  | some token => (.ok token, s)
  | none =>
    if isFit client then ask fetch get set domain client s else Act.fail unfit s

end CallTransfer.TokenExchange
