import CallTransfer.Halt
import CallTransfer.Secret.Arn
import CallTransfer.Secret.Credentials

/-!
    The service that keeps secrets. A secret is asked for in the region that its resource name
    tells, and a name that tells none is not asked for. An ISOLATED service cannot be reached.
-/

namespace CallTransfer.Secret

/-- What the service answers to every question. -/
inductive Reply where
  | text (secret : String)
  | binary
  | refused (why : String)
  deriving DecidableEq, Repr

/-- A question: for which secret, in which region. -/
structure Call where
  region : String
  arn : String
  deriving DecidableEq, Repr

/-- The service and the questions that have reached it. -/
structure Vault where
  isolated : Bool
  reply : Reply
  calls : List Call
  deriving Repr

/-- The credentials in an answer. -/
def Reply.credentials : Reply → Except Failure Credentials
  | text secret =>
    match Credentials.parse secret with
    | .ok credentials => .ok credentials
    | .error fault => .error (.auth fault.message)
  | binary => .error (.auth "secret value is empty or not a string")
  | refused why => .error (.auth ("failed to retrieve secret from Secrets Manager: " ++ why))

/-- The credentials that are kept under a resource name. -/
def Vault.retrieve (arn : String) : Act Vault Credentials := fun v =>
  match region? arn with
  | none => (.error (.failed (.auth (invalidArn arn))), v)
  | some region =>
    let reply := if v.isolated then .refused "dispatch failure" else v.reply
    let calls := if v.isolated then v.calls else v.calls ++ [⟨region, arn⟩]
    match reply.credentials with
    | .ok credentials => (.ok credentials, { v with calls })
    | .error failure => (.error (.failed failure), { v with calls })

end CallTransfer.Secret
