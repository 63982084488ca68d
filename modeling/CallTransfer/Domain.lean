import CallTransfer.Text.Search
import CallTransfer.Url.Parser

/-!
    Endpoints. An endpoint is given as a text that must hold a bare origin: a URL with a host and,
    but for a lone slash, with neither path nor query nor fragment. Only a host on this machine may
    be reached without encryption. Whatever is requested is appended to the TEXT, not to the URL.
-/

namespace CallTransfer

namespace Domain

/-- Why a text is no endpoint. -/
inductive Fault where
  | empty
  | url (fault : Url.Fault)
  | noHost
  | scheme (text : String)
  | path (text : String)
  | query (text : String)
  | fragment (text : String)
  | host
  deriving DecidableEq, Repr

/-- The wording of a fault. -/
def Fault.message : Fault → String
  | empty => "domain cannot be empty"
  | url fault => "invalid domain URL: " ++ fault.message
  | noHost => "domain must have a host"
  | scheme text => "domain must use HTTPS scheme, got: " ++ text
  | path text => "domain cannot contain path components: " ++ text
  | query text => "domain cannot contain query parameters: " ++ text
  | fragment text => "domain cannot contain fragment: " ++ text
  | host => "domain host contains invalid characters"

/-- Whether a host, as it is written, is taken for this machine. -/
def isLoopback (host : List Char) : Bool :=
  host == "localhost".toList || "127.".toList.isPrefixOf host

/-- Whether credentials may be sent to a host under a scheme. -/
def isTrusted (scheme host : List Char) : Bool :=
  scheme == "https".toList || (scheme == "http".toList && isLoopback host)

/-- The first fault of an endpoint that is a URL with a host. -/
def originFault? (url : Url) (host : List Char) : Option Fault :=
  if !isTrusted url.scheme host then some (.scheme (String.ofList url.scheme))
  else if url.pathText ≠ [] ∧ url.pathText ≠ ['/'] then
    some (.path (String.ofList url.pathText))
  else match url.query, url.fragment with
    | some q, _ => some (.query (String.ofList q))
    | none, some f => some (.fragment (String.ofList f))
    | none, none =>
      if host.contains '/' || Text.occurs ['.', '.'] host then some .host else none

/-- The origin that a text holds. -/
def parse (text : String) : Except Fault Url :=
  if text = "" then .error .empty
  else match Url.parse text with
    | .error fault => .error (.url fault)
    | .ok url =>
      match url.host? with
      | none => .error .noHost
      | some host =>
        match originFault? url host.render with
        | some fault => .error fault
        | none => .ok url

/-- An endpoint with a scheme in front, which is `https` unless it names one of the two itself. -/
def withScheme (text : String) : String :=
  if "http://".toList.isPrefixOf text.toList || "https://".toList.isPrefixOf text.toList then text
  else "https://" ++ text

/-- An endpoint without slashes at its end. -/
def bare (text : String) : String :=
  String.ofList (Text.dropEndWhile (· == '/') text.toList)

/-! ### What an endpoint has been checked for -/

/-- A URL is an origin without fault if it is trusted and has nothing but a lone slash behind its
    host. -/
theorem originFault?_eq_none_iff {url : Url} {host : List Char} :
    originFault? url host = none ↔
      isTrusted url.scheme host = true ∧ (url.pathText = [] ∨ url.pathText = ['/']) ∧
        url.query = none ∧ url.fragment = none ∧
        '/' ∉ host ∧ Text.occurs ['.', '.'] host = false := by
  unfold originFault?
  split
  · rename_i ht
    exact ⟨nofun, fun h => by rw [h.1] at ht; cases ht⟩
  · rename_i ht
    have ht : isTrusted url.scheme host = true := by simpa using ht
    split
    · rename_i hp
      exact ⟨nofun, fun h => absurd h.2.1 (not_or.mpr hp)⟩
    · rename_i hp
      have hp : url.pathText = [] ∨ url.pathText = ['/'] := by
        rcases Decidable.not_and_iff_or_not.mp hp with h | h
        · exact Or.inl (Decidable.not_not.mp h)
        · exact Or.inr (Decidable.not_not.mp h)
      split
      · rename_i hq
        exact ⟨nofun, fun h => by rw [h.2.2.1] at hq; cases hq⟩
      · rename_i hf
        exact ⟨nofun, fun h => by rw [h.2.2.2.1] at hf; cases hf⟩
      · rename_i hq hf
        simp [ht, hp, hq, hf]

/-- A text is an endpoint if it is the URL of an origin without fault. -/
theorem parse_eq_ok_iff {text : String} {url : Url} :
    parse text = .ok url ↔ text ≠ "" ∧ Url.parse text = .ok url ∧
      ∃ host, url.host? = some host ∧ originFault? url host.render = none := by
  unfold parse
  split
  · rename_i he
    exact ⟨nofun, fun h => absurd he h.1⟩
  · rename_i he
    cases hu : Url.parse text with
    | error fault => exact ⟨nofun, nofun⟩
    | ok parsed =>
      simp only
      constructor
      · intro h
        split at h
        · cases h
        · rename_i host hh
          split at h
          · cases h
          · rename_i hf
            cases h
            exact ⟨he, rfl, host, hh, hf⟩
      · rintro ⟨-, ⟨⟩, host, hh, hf⟩
        simp only [hh, hf]

end Domain

end CallTransfer
