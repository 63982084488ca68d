import CallTransfer.Http.Network
import CallTransfer.Http.Retry
import CallTransfer.Proofs.Alike

/-!
    Requests as they may be shown: what authorises them is BLACKED OUT. An exchange depends on what
    it is authorised by as little as this. Requests that differ there only meet the same replies,
    are tried as often, and come to the same end in the same words.
-/

namespace CallTransfer.Http

/-! ### Blacking out -/

/-- A header as it may be shown. -/
def Header.redacted (header : Header) : Header :=
  if header.name == authorizationName then authorization "<redacted>" else header

/-- A request as it may be shown. -/
def Request.redacted (request : Request) : Request :=
  { request with headers := request.headers.map Header.redacted }

/-- Networks that have the same replies left, and have got the same requests up to what authorises
    them. -/
structure Network.Alike (network other : Network) : Prop where
  isolated : network.isolated = other.isolated
  replies : network.replies = other.replies
  sent : network.sent.map (·.redacted) = other.sent.map (·.redacted)

theorem Network.Alike.refl (network : Network) : network.Alike network := ⟨rfl, rfl, rfl⟩

variable {same : σ → σ → Prop}

/-- Values one of which may stand in a header if the other may. -/
def AlikeInHeader (value other : String) : Prop := isHeaderValue value = isHeaderValue other

end CallTransfer.Http
