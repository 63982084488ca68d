import CallTransfer.Settings.Duration
import CallTransfer.Settings.Environment

/-!
    Settings, each taken from its environment variable when that is set and well formed and from its
    default otherwise.
-/

namespace CallTransfer

/-- How HTTP requests are tried and tried again. Durations are in milliseconds. -/
structure RetrySettings where
  maxRetries : UInt32
  baseDelay : Nat
  timeout : Nat
  deriving DecidableEq, Repr

namespace RetrySettings

/-- Three retries, the first after a tenth of a second, and ten seconds for an answer. -/
def default : RetrySettings := ⟨3, 100, 10000⟩

/-- The 32-bit number that digits denote, after a plus sign at most. -/
def count? (text : String) : Option UInt32 := do
  let s := match text.toList with
    | '+' :: s => s
    | s => s
  let n ← Numeral.read? s
  if n < UInt32.size then some (UInt32.ofNat n) else none

/-- The settings of an environment. -/
def ofEnvironment (env : Environment) : RetrySettings where
  maxRetries := ((env.get? "HTTP_MAX_RETRIES").bind count?).getD default.maxRetries
  baseDelay := ((env.get? "HTTP_RETRY_BASE_DELAY").bind Duration.parse?).getD default.baseDelay
  timeout := ((env.get? "HTTP_CLIENT_TIMEOUT").bind Duration.parse?).getD default.timeout

end RetrySettings

/-- All settings of the gateway. -/
structure Settings where
  http : RetrySettings
  supportedDtmfChars : String
  version : String
  logLevel : String
  env : Environment
  deriving Repr

namespace Settings

/-- The version of the gateway itself. -/
def ownVersion : String := "1.0.1"

/-- The keys of a telephone, less the pound sign. -/
def defaultDtmfChars : String := "0123456789*"

/-- Whether a text says yes, in any case of its letters. -/
def saysTrue (s : String) : Bool := s.toList.map Char.toLower == "true".toList

/-- The log level: as asked for, or fine-grained when debugging is switched on. -/
def logLevelOf (env : Environment) : String :=
  (env.get? "LOG_LEVEL").getD
    (if (env.get? "DEBUG_LOGGING").any saysTrue then "debug" else "info")

/-- The settings of an environment. -/
def ofEnvironment (env : Environment) : Settings where
  http := RetrySettings.ofEnvironment env
  supportedDtmfChars := (env.get? "supportedDtmfChars").getD defaultDtmfChars
  version := (env.get? "LAMBDA_VERSION").getD ownVersion
  logLevel := logLevelOf env
  env := env

end Settings

end CallTransfer
