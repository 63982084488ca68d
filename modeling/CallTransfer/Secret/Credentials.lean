import CallTransfer.Json.Reader
import CallTransfer.Text.Base64
import CallTransfer.Text.Quoted

/-!
    The credentials of a client: its id and its secret. They are kept as an object of two nonempty
    strings, travel as a Basic header, and are shown without the secret.
-/

namespace CallTransfer

/-- The id and the secret of a client. -/
structure Credentials where
  id : String
  secret : String
  deriving DecidableEq

namespace Credentials

/-- Why a kept text gives no credentials. -/
inductive Fault where
  | notJson
  | notObject
  | missing
  deriving DecidableEq, Repr

/-- The wording of a fault. -/
def Fault.message : Fault → String
  | notJson => "failed to parse secret JSON: " ++ Json.notJson
  | notObject => "secret must be a JSON object"
  | missing =>
    "secret must contain oauthClientId and oauthClientSecret as non-empty strings"

/-- A nonempty string among members. -/
def nonempty? (ms : Members Json.Value) (key : String) : Option String :=
  ((ms.find? key).bind (·.string?)).filter (· ≠ "")

/-- The credentials in a kept text. -/
def parse (text : String) : Except Fault Credentials :=
  match Json.Value.ofString? text with
  | none => .error .notJson
  | some v =>
    match v.object? with
    | none => .error .notObject
    | some ms =>
      match nonempty? ms "oauthClientId", nonempty? ms "oauthClientSecret" with
      | some id, some secret => .ok ⟨id, secret⟩
      | _, _ => .error .missing

/-- The credentials as a Basic header. -/
def basicHeader (c : Credentials) : String :=
  "Basic " ++ String.ofList (Text.Base64.encode (Text.Utf8.encode (c.id ++ ":" ++ c.secret)))

/-- The credentials for display. -/
def describe (c : Credentials) : String :=
  "OAuthCredentials \x7b oauth_client_id: " ++ Text.quoted c.id ++
    ", oauth_client_secret: \"<redacted>\" \x7d"

end Credentials

end CallTransfer
