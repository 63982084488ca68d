import CallTransfer.Gateway.Invocation
import CallTransfer.Http.Network
import CallTransfer.Secret.Vault
import CallTransfer.Token.Exchange

/-!
    The world around the gateway: the network, the desk with the cache of tokens and its clock, and
    the vault. Tokens are issued over the same network and under the same settings as all other
    requests, but without authorisation of their own. NO TIME PASSES during an invocation: pauses
    and replies leave the clock of the desk as it is, so that all of its attempts are made at one
    instant; it is between invocations that the clock is put on.
-/

namespace CallTransfer

/-- What lasts from one invocation to the next. -/
structure World where
  network : Http.Network
  desk : TokenDesk
  vault : Secret.Vault
  deriving Repr

namespace World

/-- One attempt over the network of a world. -/
def attempt (url : Url) (request : Http.Request) : Act World Http.Outcome :=
  Act.zoom World.network (fun network w => { w with network })
    (ExceptT.lift (Http.Network.attempt url request))

/-- A request without authorisation. -/
def fetch (settings : RetrySettings) (request : Http.Request) : Act World Bytes :=
  Http.fetch settings attempt none request

/-- Issues a token, out of the cache or over the network. -/
def issue (settings : RetrySettings) (domain : String) (client : Credentials) :
    Act World String :=
  TokenExchange.issue (fetch settings) World.desk (fun desk w => { w with desk }) domain client

/-- Asks the vault of a world. -/
def retrieve (arn : String) : Act World Credentials :=
  Act.zoom World.vault (fun vault w => { w with vault }) (Secret.Vault.retrieve arn)

/-- The services of a world. -/
def services (settings : RetrySettings) : Services World where
  attempt := attempt
  issue := issue settings
  retrieve := retrieve

/-- Handles an event in a world. -/
def handle (settings : Settings) (event : Event) : Act World Answer :=
  Gateway.handle settings (services settings.http) event

end World

end CallTransfer
