import CallTransfer.Main
import CallTransfer.Script
import CallTransfer.Proofs.Http.Verdict
import CallTransfer.Proofs.Http.CallState
import CallTransfer.Proofs.Http.Deciding
import CallTransfer.Proofs.Http.Unauthorised
import CallTransfer.Proofs.Http.Authorised
import CallTransfer.Proofs.Token.History
import CallTransfer.Proofs.Token.Interleaving
import CallTransfer.Proofs.Idna.Blank
import CallTransfer.Proofs.Url.Blank
import CallTransfer.Proofs.Url.Network
import CallTransfer.Proofs.Url.Origin
import CallTransfer.Proofs.Transfer.Endpoint
import CallTransfer.Proofs.Url.Path
import CallTransfer.Proofs.Transfer.Method
import CallTransfer.Proofs.Transfer.Traversal
import CallTransfer.Proofs.Gateway.Authorisation
import CallTransfer.Proofs.Url.Loopback
import CallTransfer.Proofs.Url.Base
import CallTransfer.Proofs.Transfer.Base
import CallTransfer.Proofs.Gateway.Inputs
import CallTransfer.Proofs.Alike
import CallTransfer.Proofs.Http.Redacted
import CallTransfer.Proofs.Gateway.Secrecy
import CallTransfer.Proofs.Walk
import CallTransfer.Proofs.Http.Attempts
import CallTransfer.Proofs.Token.Fetcher
import CallTransfer.Proofs.Gateway.Rounds
import CallTransfer.Proofs.Gateway.Traffic
import CallTransfer.Proofs.Gateway.Endings
import CallTransfer.Proofs.Gateway.Keeping
import CallTransfer.Proofs.Token.Calendar
import CallTransfer.Proofs.Json.Pairs
import CallTransfer.Proofs.Secret.Vault
import CallTransfer.Proofs.Gateway.Secrets
import CallTransfer.Proofs.Idna.Spelling
import CallTransfer.Proofs.Idna.Letters
import CallTransfer.Proofs.Url.Spelling
import CallTransfer.Proofs.Gateway.Regions
import CallTransfer.Proofs.Url.Written
import CallTransfer.Proofs.Gateway.Naming
import CallTransfer.Proofs.Json.Grammar
import CallTransfer.Proofs.Json.Quoted
import CallTransfer.Proofs.Json.Number
import CallTransfer.Proofs.Json.Group
import CallTransfer.Proofs.Json.Reading
import CallTransfer.Proofs.Json.Writing
import CallTransfer.Proofs.Json.Record
import CallTransfer.Proofs.Event
import CallTransfer.Proofs.Transfer.Payload
import CallTransfer.Proofs.Transfer.Answer
import CallTransfer.Proofs.AgentName
import CallTransfer.Proofs.Settings
import CallTransfer.Proofs.Region
import CallTransfer.Proofs.Http.Count
import CallTransfer.Proofs.Http.Backoff
import CallTransfer.Proofs.Text.Base64
import CallTransfer.Proofs.Secret.Credentials
import CallTransfer.Proofs.Token.Exchange
import CallTransfer.Proofs.Gateway.Clients
