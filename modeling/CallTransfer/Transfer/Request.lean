import CallTransfer.Action
import CallTransfer.AgentName
import CallTransfer.Domain
import CallTransfer.Event
import CallTransfer.Http.Request

/-!
    What is asked of the backend. Each action has its own method below the virtual agent, and its
    own payload: a handoff is looked up by the contact's id alone, a transfer is told all that is
    known of the contact and the event's parameters, but for those that are meant for the gateway.
-/

namespace CallTransfer

/-- All that a request to the backend is made of. -/
structure Transfer where
  domain : String
  agent : AgentName
  dtmfChars : String
  version : String
  event : Event
  deriving Repr

namespace Transfer

/-- The parameters that are meant for the gateway. -/
def ownKeys : List String :=
  ["apiDomain", "authDomain", "region", "action", "apiKey", "oauthClientId", "oauthClientSecret",
    "oauthSecretArn", "virtualAgentName", "supportedDtmfChars"]

/-- The parameters that are passed on. -/
def forwarded (parameters : Members String) : Members Json.Value :=
  (parameters.filter fun p => !ownKeys.contains p.1).map fun (k, v) => (k, .string v)

/-- The URL of the backend's method for an action. -/
def url (t : Transfer) : Action → String
  | .pstnTransfer =>
    Domain.bare t.domain ++ "/v1/" ++ t.agent.resourceName ++ ":generatePSTNTransferData"
  | .handoff =>
    Domain.bare t.domain ++ "/v1/customers/" ++ t.agent.customer ++ "/profiles/" ++
      t.agent.profile ++ "/handoffs:fetchAIAgentHandoff"

/-- What is told of the contact: its own members, but for the two that are set here. -/
def metadata (t : Transfer) : Members Json.Value :=
  (t.event.contact.insert "parameters" (.object (forwarded t.event.parameters))).insert
    "version" (.string t.version)

/-- What is posted for an action. -/
def payload (t : Transfer) : Action → Json.Value
  | .pstnTransfer => .object [
      ("callId", .string t.event.contactId),
      ("ccaasMetadata", .object t.metadata),
      ("supportedDtmfChars", .string t.dtmfChars)]
  | .handoff => .object [("correlationId", .string t.event.contactId)]

/-- The request for an action. -/
def request (t : Transfer) (action : Action) : Http.Request :=
  .postJson (t.url action) [] (Json.write (t.payload action))

end Transfer

end CallTransfer
