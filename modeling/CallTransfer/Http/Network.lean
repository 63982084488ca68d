import CallTransfer.Http.Outcome
import CallTransfer.Http.Request
import CallTransfer.Secret.Credentials
import CallTransfer.Url.Basic

/-!
    The network, as a list of replies that requests will meet in turn, and of the requests that have
    got through. A reply may be that there is no connection, and then the request does not get
    through. Encrypted requests find none, nor do any over an ISOLATED network; these meet no reply.
    User name and password of a URL travel in a header, unless one is given, and are left out of the
    URL.
-/

namespace CallTransfer.Http

/-- What a request meets. Of a response the status is the final one: heads that only announce
    another one are no replies. -/
inductive Reply where
  /-- A whole response. -/
  | response (status : Nat) (body : Bytes)
  /-- No connection to send the request over. -/
  | unreached
  /-- A connection that is closed without a response. -/
  | closed
  /-- No response in time. -/
  | silent
  /-- A response that breaks off behind its head. -/
  | truncated (status : Nat)
  deriving DecidableEq, Repr

/-- The replies that are left and the requests that have got through. -/
structure Network where
  isolated : Bool
  replies : List Reply
  sent : List Request
  deriving Repr

/-- The texts of failed exchanges with a URL. -/
def broken (what : String) (url : Url) (kind : String) : Outcome :=
  .interrupted (what ++ " for url (" ++ url.text ++ ") (" ++ kind ++ ")")

/-- An exchange that broke off while the request was sent. -/
def notSent (url : Url) (kind : String) : Outcome := broken "error sending request" url kind

/-- An exchange that there was no connection for. -/
def unconnected (url : Url) : Outcome := notSent url "connection_failed"

/-- Whether a response to a method has a body behind its head. -/
def hasBody (method : String) (status : Nat) : Bool :=
  !(status / 100 == 1 || status == 204 || status == 304 || method == "HEAD" ||
    method == "CONNECT" && isSuccess status)

/-- How an attempt ends that meets a reply, or none where a reply should be. A response without a
    body cannot break off behind its head. -/
def Reply.outcome (method : String) (url : Url) : Option Reply → Outcome
  | some (.response status body) => .ofWhole status (if hasBody method status then body else [])
  | some (.truncated status) =>
    if !hasBody method status then .ofWhole status []
    else if isSuccess status then .interrupted "error reading body: error decoding response body"
    else .refused status ""
  | some .unreached => unconnected url
  | some .silent => notSent url "timeout"
  | some .closed | none => notSent url "request_error"

/-- The longest URL that can be requested, in bytes. -/
def maxUrlLength : Nat := 65534

/-- Whether a URL can be requested at all. -/
def isRequestable (url : Url) : Bool :=
  (url.scheme == "http".toList || url.scheme == "https".toList) &&
    !(url.authority.any fun a => a.host.render.any "\"\x60\x7b\x7d".toList.contains) &&
    url.render.length ≤ maxUrlLength

/-- User name and password in the clear, if there are any and the name is text. -/
def userOf? (a : Authority) : Option Credentials := do
  let name ← Text.Utf8.decode? (Url.Percent.decode a.username)
  let password :=
    if a.password.isEmpty then none else Text.Utf8.decode? (Url.Percent.decode a.password)
  if name = "" ∧ password.isNone then none else some ⟨name, password.getD ""⟩

/-- A URL without user name and password, and those as a header. -/
def splitUser (url : Url) : Url × Option Header :=
  match url.authority.bind userOf? with
  | none => (url, none)
  | some user =>
    let authority := url.authority.map fun a => { a with username := [], password := [] }
    ({ url with authority }, some (authorization user.basicHeader))

theorem splitUser_scheme (url : Url) : (splitUser url).1.scheme = url.scheme := by
  unfold splitUser
  split <;> rfl

/-- A request as it goes out: its URL is written without fragment, and the user that the URL names
    is its authorization unless it has one. -/
def Request.outgoing (request : Request) (url : Url) (user : Option Header) : Request :=
  let r := { request with url := { url with fragment := none }.text }
  match user with
  | some header => if r.isAuthorized then r else r.withHeader header
  | none => r

theorem Request.method_outgoing (request : Request) (url : Url) (user : Option Header) :
    (request.outgoing url user).method = request.method := by
  cases user with
  | none => rfl
  | some header =>
    simp only [outgoing]
    split <;> rfl

/-- Meets the next reply. -/
def Network.meet (url : Url) (request : Request) : StateM Network Outcome := fun n =>
  (Reply.outcome request.method url n.replies.head?,
    { n with
      replies := n.replies.tail
      sent := if n.replies.head? = some .unreached then n.sent else n.sent ++ [request] })

/-- One attempt at a request for a URL. -/
def Network.attempt (url : Url) (request : Request) : StateM Network Outcome := fun n =>
  let (target, user) := splitUser url
  if !isRequestable target then (broken "builder error" target "unknown", n)
  else if n.isolated || target.scheme == "https".toList then (unconnected target, n)
  else Network.meet target (request.outgoing target user) n

end CallTransfer.Http
