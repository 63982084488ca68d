import CallTransfer.Proofs.Gateway.Authorisation
import CallTransfer.Proofs.Gateway.Inputs
import CallTransfer.Proofs.Http.Authorised
import CallTransfer.Proofs.Http.Redacted
import CallTransfer.Proofs.Token.Exchange

/-!
    Secrecy. A secret of the inputs, be it a key or that of a client, shows in nothing but what
    authorises requests. Two invocations that differ in such a secret run side by side: they choose
    the same mode, send the same requests up to that header, find and keep the same tokens, and
    answer or fail in the same words.
-/

namespace CallTransfer

open Http (AlikeInHeader)

/-! ### Issuing tokens -/

/-- Worlds that differ in what authorised past requests at most. -/
structure World.Alike (w other : World) : Prop where
  network : w.network.Alike other.network
  desk : w.desk = other.desk
  vault : w.vault = other.vault

theorem World.Alike.refl (w : World) : w.Alike w := ⟨.refl w.network, rfl, rfl⟩

namespace World

end World

/-! ### Modes -/

/-- Credentials of one client, with a secret or without one. -/
structure Credentials.Alike (client other : Credentials) : Prop where
  id : client.id = other.id
  secret : client.secret = "" ↔ other.secret = ""

/-- Modes that fit the same header: tokens of one client, or keys one of which may stand in a header
    if the other may. -/
inductive Auth.Alike : Auth → Auth → Prop
  | oauth2 (domain : String) {client other : Credentials} (h : client.id = other.id) :
      Alike (.oauth2 domain client) (.oauth2 domain other)
  | apiKey {key other : String} (h : AlikeInHeader key other) : Alike (.apiKey key) (.apiKey other)

namespace Plan

/-- Plans that differ in their secrets at most. -/
structure Alike (plan other : Plan) : Prop where
  rest : other = plan.withSecrets other.clientSecret other.apiKey
  clientSecret : plan.clientSecret.getD "" = "" ↔ other.clientSecret.getD "" = ""
  apiKey : plan.apiKey.getD "" = "" ↔ other.apiKey.getD "" = ""
  header : AlikeInHeader (plan.apiKey.getD "") (other.apiKey.getD "")

variable {env otherEnv : Environment} {event otherEvent : Event}

end Plan

/-! ### Invocations -/

namespace Gateway

variable {same : σ → σ → Prop} {plan other : Plan}

variable {key : String} {env otherEnv : Environment} {event otherEvent : Event}

end Gateway

end CallTransfer
