import CallTransfer.Idna.Basic
import CallTransfer.Url.Fault
import CallTransfer.Url.Ipv4
import CallTransfer.Url.Ipv6
import CallTransfer.Url.Percent

/-!
    Hosts. An IPv6 address stands in brackets. Under a special scheme anything else is a domain name
    in percent-encoding, of which the ASCII form counts, and a name that ends in a number is an IPv4
    address; under other schemes a host is any text without delimiters.
-/

namespace CallTransfer.Url

/-- The machine that a URL names. -/
inductive Host where
  | name (text : List Char)
  | ipv4 (address : Nat)
  | ipv6 (groups : List Nat)
  deriving DecidableEq, Repr

namespace Host

/-- The written form of a host. -/
def render : Host → List Char
  | name text => text
  | ipv4 address => Ipv4.render address
  | ipv6 groups => '[' :: Ipv6.render groups ++ [']']

/-- The address in a text that follows an opening bracket. -/
def ofBracketed (s : List Char) : Except Fault Host :=
  if s.getLast? = some ']' then
    match Ipv6.parse? s.dropLast with
    | some groups => .ok (ipv6 groups)
    | none => .error .ipv6
  else .error .ipv6

/-- The host that a domain name in ASCII stands for. -/
def ofAscii (s : List Char) : Except Fault Host :=
  if s.isEmpty then .error .emptyHost
  else if Ipv4.endsInNumber s then
    match Ipv4.parse? s with
    | some address => .ok (ipv4 address)
    | none => .error .ipv4
  else .ok (name s)

/-- A domain name out of its percent-encoding, in ASCII. -/
def domainName? (s : List Char) : Option (List Char) :=
  (Text.Utf8.decode? (Percent.decode s)).bind fun text => Idna.toAscii? text.toList

/-- A host under a special scheme. -/
def ofSpecial : List Char → Except Fault Host
  | '[' :: s => ofBracketed s
  | s =>
    match domainName? s with
    | some ascii => ofAscii ascii
    | none => .error .domainName

/-- Characters that no host holds as they are. -/
def isForbidden (c : Char) : Bool := "\x00\t\n\r #/:<>?@[\\]^|".toList.contains c

/-- A host under any other scheme. -/
def ofOther : List Char → Except Fault Host
  | '[' :: s => ofBracketed s
  | s =>
    if s.any isForbidden then .error .hostCharacter
    else .ok (name (Percent.encode Percent.control s))

end Host

end CallTransfer.Url
