import CallTransfer.Halt
import CallTransfer.Secret.Credentials

/-!
    How requests are authorised: by a token that client credentials are exchanged for, or by a key.
    A client with both id and secret takes precedence over a key.
-/

namespace CallTransfer

/-- How requests are authorised. -/
inductive Auth where
  | oauth2 (domain : String) (client : Credentials)
  | apiKey (key : String)
  deriving DecidableEq

namespace Auth

/-- The mode that fits what is known, if any does. -/
def ofKnown? (domain id secret key : String) : Option Auth :=
  if id ≠ "" ∧ secret ≠ "" then some (oauth2 domain ⟨id, secret⟩)
  else if key ≠ "" then some (apiKey key)
  else none

/-- Tokens are used when both id and secret are known, and a key when they are not. -/
theorem ofKnown?_eq_some_iff {domain id secret key : String} {auth : Auth} :
    ofKnown? domain id secret key = some auth ↔
      (id ≠ "" ∧ secret ≠ "") ∧ auth = oauth2 domain ⟨id, secret⟩ ∨
        ¬ (id ≠ "" ∧ secret ≠ "") ∧ key ≠ "" ∧ auth = apiKey key := by
  unfold ofKnown?
  split
  · rename_i h
    exact ⟨fun ha => .inl ⟨h, (Option.some.inj ha).symm⟩,
      fun ha => congrArg some (ha.resolve_right fun hn => hn.1 h).2.symm⟩
  · rename_i h
    split
    · rename_i hk
      exact ⟨fun ha => .inr ⟨h, hk, (Option.some.inj ha).symm⟩,
        fun ha => congrArg some (ha.resolve_left fun hy => h hy.1).2.2.symm⟩
    · rename_i hk
      exact ⟨nofun, fun ha => absurd (ha.resolve_left fun hy => h hy.1).2.1 hk⟩

/-- Whether requests carry tokens. -/
def isOauth2 : Auth → Bool
  | oauth2 _ _ => true
  | apiKey _ => false

/-- The value of the header that authorises one attempt; `issue` issues a token. -/
def header (issue : String → Credentials → Act σ String) : Auth → Act σ String
  | oauth2 domain client =>
    if domain = "" then Act.fail (.auth "authDomain is required for OAuth authentication")
    else do return "Bearer " ++ (← issue domain client)
  | apiKey key => pure ("ApiKey " ++ key)

/-- The mode for display, without what is secret. -/
def describe : Auth → String
  | oauth2 domain client =>
    "OAuth2 \x7b auth_domain: " ++ Text.quoted domain ++ ", client_id: " ++
      Text.quoted client.id ++ ", .. \x7d"
  | apiKey _ => "ApiKey(..)"

end Auth

end CallTransfer
