import CallTransfer.Text.Utf8

/-!
    Requests. Header names have one spelling, in small letters; a header value may hold tabs and
    everything that is no control character.
-/

namespace CallTransfer.Http

/-- A header. -/
structure Header where
  name : String
  value : String
  deriving DecidableEq, Repr

/-- Whether a character may stand in a header value. -/
def isHeaderChar (c : Char) : Bool := c == '\t' || (0x20 ≤ c.toNat && c.toNat != 0x7F)

/-- Whether a text may be a header value. -/
def isHeaderValue (s : String) : Bool := s.toList.all isHeaderChar

/-- What is asked of a server. -/
structure Request where
  method : String
  url : String
  headers : List Header
  body : Option Bytes
  deriving DecidableEq, Repr

/-- The name of the header that carries credentials. -/
def authorizationName : String := "authorization"

/-- The header that carries credentials. -/
def authorization (value : String) : Header := ⟨authorizationName, value⟩

/-- The header of a JSON body. -/
def jsonContent : Header := ⟨"content-type", "application/json"⟩

namespace Request

/-- The value of a header. -/
def header? (r : Request) (name : String) : Option String :=
  (r.headers.find? (·.name == name)).map (·.value)

/-- Whether a request carries credentials. -/
def isAuthorized (r : Request) : Bool := r.headers.any (·.name == authorizationName)

/-- A request with one more header. -/
def withHeader (r : Request) (h : Header) : Request := { r with headers := r.headers ++ [h] }

/-- A request to post a text that is JSON. -/
def postJson (url : String) (headers : List Header) (text : List Char) : Request where
  method := "POST"
  url := url
  headers := jsonContent :: headers
  body := some (Text.Utf8.encode (String.ofList text))

end Request

end CallTransfer.Http
