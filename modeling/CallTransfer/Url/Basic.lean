import CallTransfer.Url.Host
import CallTransfer.Url.Path

/-!
    URLs as they are after parsing: every part normalised, in its own percent-encoding. The written
    form of a URL reads back as the same URL.
-/

namespace CallTransfer

/-- Who and where: what stands behind the double slash. A user name or password that is empty is not
    written, nor is the port that the scheme stands for. -/
structure Authority where
  username : List Char
  password : List Char
  host : Url.Host
  port : Option Nat
  deriving DecidableEq, Repr

/-- A URL. -/
structure Url where
  scheme : List Char
  authority : Option Authority
  path : Url.Path
  query : Option (List Char)
  fragment : Option (List Char)
  deriving DecidableEq, Repr

namespace Authority

/-- User name and password, up to the at sign. -/
def renderUser (a : Authority) : List Char :=
  if a.username.isEmpty && a.password.isEmpty then []
  else a.username ++ (if a.password.isEmpty then [] else ':' :: a.password) ++ ['@']

/-- Host and port. -/
def renderHost (a : Authority) : List Char :=
  a.host.render ++
    match a.port with
    | some p => ':' :: Numeral.digits p
    | none => []

/-- The written form of an authority, double slash included. -/
def render (a : Authority) : List Char := '/' :: '/' :: a.renderUser ++ a.renderHost

end Authority

namespace Url

/-- The ports of the special schemes. -/
def defaultPorts : List (List Char × Nat) :=
  [("http".toList, 80), ("https".toList, 443), ("ws".toList, 80), ("wss".toList, 443),
    ("ftp".toList, 21)]

/-- The port that a scheme stands for. -/
def defaultPort? (scheme : List Char) : Option Nat := defaultPorts.lookup scheme

/-- How the part behind the scheme is read. -/
inductive Kind where
  /-- A special scheme of the network. -/
  | network
  /-- Files. -/
  | file
  /-- All other schemes. -/
  | other
  deriving DecidableEq, Repr

/-- The kind of a scheme. -/
def Kind.ofScheme (scheme : List Char) : Kind :=
  if scheme = "file".toList then .file
  else if (defaultPort? scheme).isSome then .network
  else .other

/-- Whether a scheme is special. -/
def Kind.isSpecial : Kind → Bool
  | other => false
  | _ => true

/-- What keeps a path with empty first segments from being read as an authority. -/
def pathMark (url : Url) : List Char :=
  match url.authority, url.path with
  | none, .segments ([] :: _ :: _) => ['/', '.']
  | _, _ => []

/-- The path in its written form. -/
def pathText (url : Url) : List Char := url.path.render

/-- A part behind its sign, if there is one. -/
def renderPart (sign : Char) : Option (List Char) → List Char
  | some s => sign :: s
  | none => []

/-- The written form of a URL. -/
def render (url : Url) : List Char :=
  url.scheme ++ ':' :: (url.authority.elim [] Authority.render) ++ url.pathMark ++ url.pathText ++
    renderPart '?' url.query ++ renderPart '#' url.fragment

/-- A URL as text. -/
def text (url : Url) : String := String.ofList url.render

/-- The host, unless there is none or an empty one. -/
def host? (url : Url) : Option Host := (url.authority.map (·.host)).filter fun h => h ≠ .name []

/-- The port that is called. -/
def effectivePort? (url : Url) : Option Nat :=
  (url.authority.bind (·.port)).orElse fun _ => defaultPort? url.scheme

end Url

end CallTransfer
