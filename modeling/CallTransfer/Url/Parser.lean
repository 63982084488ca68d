import CallTransfer.Number.Numeral
import CallTransfer.Text.Blank
import CallTransfer.Url.Basic

/-!
    Reading a URL. Controls and spaces at both ends and tabs and line ends everywhere are not part
    of it. The scheme ends at the first colon, the fragment starts at the first `#` behind it and
    the query at the first `?` before that; what is left is authority and path, and a backslash in
    it is a slash under a special scheme.
-/

namespace CallTransfer.Url

/-- Controls and spaces, which do not count at the ends. -/
def isOuterBlank (c : Char) : Bool := c.toNat ≤ 0x20

/-- Tabs and line ends, which count nowhere. -/
def isLineBlank (c : Char) : Bool := c == '\t' || c == '\n' || c == '\r'

/-- The part of a text that counts. -/
def clean (s : List Char) : List Char := (Text.trimBy isOuterBlank s).filter (!isLineBlank ·)

/-- A character that a scheme may hold behind its first letter. -/
def isSchemeChar (c : Char) : Bool := c.isAlphanum || c == '+' || c == '-' || c == '.'

/-- The scheme in lower case, and what follows its colon. -/
def splitScheme? (s : List Char) : Option (List Char × List Char) :=
  let name := s.takeWhile isSchemeChar
  match s.dropWhile isSchemeChar with
  | ':' :: rest => if name.head?.any Char.isAlpha then some (name.map Char.toLower, rest) else none
  | _ => none

/-- The texts before and behind the first `sign`, if there is one. -/
def cut (sign : Char) (s : List Char) : List Char × Option (List Char) :=
  match s.dropWhile (· != sign) with
  | [] => (s, none)
  | _ :: behind => (s.takeWhile (· != sign), some behind)

/-- What separates segments. -/
def isSlash (special : Bool) (c : Char) : Bool := c == '/' || (special && c == '\\')

/-- The segments between the slashes of a text. -/
def segmentsOf (special : Bool) : List Char → List (List Char)
  | [] => [[]]
  | c :: s =>
    if isSlash special c then [] :: segmentsOf special s
    else match segmentsOf special s with
      | [] => [[c]]
      | f :: fs => (c :: f) :: fs

/-- What stands before the last at sign, if there is one, and behind it. -/
def splitUser (s : List Char) : Option (List Char) × List Char :=
  let behind := (s.reverse.takeWhile (· != '@')).reverse
  if behind.length = s.length then (none, s)
  else (some (s.take (s.length - behind.length - 1)), behind)

/-- Host and port: the host ends at the first colon outside of brackets. -/
def splitPort (inBrackets : Bool) : List Char → List Char × Option (List Char)
  | [] => ([], none)
  | c :: s =>
    if c == ':' && !inBrackets then ([], some s)
    else
      let inBrackets := if c == '[' then true else if c == ']' then false else inBrackets
      let (host, port) := splitPort inBrackets s
      (c :: host, port)

/-- The port that digits name, unless it is the one that the scheme stands for. -/
def readPort (default : Option Nat) (s : List Char) : Except Fault (Option Nat) :=
  if !s.all Numeral.isDigit then .error .port
  else
    let n := Numeral.value s
    if 65535 < n then .error .port
    else .ok (if s.isEmpty || some n == default then none else some n)

/-- User name and password in percent-encoding. -/
def readUser (user : Option (List Char)) : List Char × List Char :=
  let (name, password) := cut ':' (user.getD [])
  (Percent.encode Percent.userinfo name, Percent.encode Percent.userinfo (password.getD []))

/-- An authority under a special scheme. -/
def readAuthority (default : Option Nat) (s : List Char) : Except Fault Authority := do
  let (user, place) := splitUser s
  let (hostText, portText) := splitPort false place
  if hostText.isEmpty then throw .emptyHost
  let host ← Host.ofSpecial hostText
  let port ← readPort default (portText.getD [])
  let (username, password) := readUser user
  return ⟨username, password, host, port⟩

/-- An authority under any other scheme, and what is left of its text: a backslash ends the port. An
    empty host has neither port nor user, but for a lone at sign at the very end. -/
def readOtherAuthority (atEnd : Bool) (s : List Char) : Except Fault (Authority × List Char) := do
  let (user, place) := splitUser s
  if user == some [] && place.isEmpty && !atEnd then throw .emptyHost
  let (hostText, portText) := splitPort false place
  let host ← Host.ofOther hostText
  if host == .name [] && portText.isSome then throw .emptyHost
  let port ← readPort none ((portText.getD []).takeWhile (· != '\\'))
  let (username, password) := readUser user
  if host == .name [] && !(username.isEmpty && password.isEmpty) then throw .emptyHost
  return (⟨username, password, host, port⟩, (portText.getD []).dropWhile (· != '\\'))

/-- Authority and path under a special scheme of the network: slashes in front do not count. -/
def readNetwork (default : Option Nat) (s : List Char) :
    Except Fault (Option Authority × Path) := do
  let s := s.dropWhile (isSlash true)
  let authority ← readAuthority default (s.takeWhile (!isSlash true ·))
  let path := (s.dropWhile (!isSlash true ·)).drop 1
  return (some authority, .ofSegments (segmentsOf true path))

/-- Authority and path under any other scheme. -/
def readOther (atEnd : Bool) : List Char → Except Fault (Option Authority × Path)
  | '/' :: '/' :: s => do
    let behind := s.dropWhile (· != '/')
    let (authority, left) ←
      readOtherAuthority (atEnd && behind.isEmpty) (s.takeWhile (· != '/'))
    let path := match left ++ behind with
      | [] => .segments []
      | '/' :: path => .ofSegments (segmentsOf false path)
      | path => .ofSegments (segmentsOf false path)
    return (some authority, path)
  | '/' :: s => .ok (none, .ofSegments (segmentsOf false s))
  | s => .ok (none, .ofRootless s)

/-- The host of a file; this machine has no name. -/
def readFileHost (s : List Char) : Except Fault Host := do
  if s.isEmpty then return .name []
  let host ← Host.ofSpecial s
  return if host == .name "localhost".toList then .name [] else host

/-- Authority and path of a file. A drive is no host, and a path with a drive needs none. -/
def readFile (s : List Char) : Except Fault (Option Authority × Path) := do
  let onHost (host : Host) (path : List Char) : Option Authority × Path :=
    let segments := segmentsOf true path
    let host := if Path.startsWithDrive segments then .name [] else host
    (some ⟨[], [], host, none⟩, .ofFile segments)
  match s with
  | a :: b :: rest =>
    if isSlash true a && isSlash true b then
      let hostText := rest.takeWhile (!isSlash true ·)
      if Path.isDrive hostText then return onHost (.name []) rest
      let host ← readFileHost hostText
      return onHost host ((rest.dropWhile (!isSlash true ·)).drop 1)
    else return onHost (.name []) (if isSlash true a then b :: rest else s)
  | [a] => return onHost (.name []) (if isSlash true a then [] else s)
  | [] => return onHost (.name []) []

/-- The URL that a text holds. -/
def parse (text : String) : Except Fault Url := do
  match splitScheme? (clean text.toList) with
  | none => throw .noScheme
  | some (scheme, rest) =>
    let (rest, fragment) := cut '#' rest
    let (rest, query) := cut '?' rest
    let kind := Kind.ofScheme scheme
    let (authority, path) ← match kind with
      | .network => readNetwork (defaultPort? scheme) rest
      | .file => readFile rest
      | .other => readOther (query.isNone && fragment.isNone) rest
    let querySet := if kind.isSpecial then Percent.specialQuery else Percent.query
    return {
      scheme, authority, path
      query := query.map (Percent.encode querySet)
      fragment := fragment.map (Percent.encode Percent.fragment) }

end CallTransfer.Url
