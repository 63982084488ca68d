import CallTransfer.Json.Record

/-!
    What a token endpoint answers: a record of three members, none of which has to be there.
-/

namespace CallTransfer

open Json (RecordField optional textReader int64Reader)

/-- An answer of a token endpoint. -/
structure TokenResponse where
  accessToken : Option String
  tokenType : Option String
  expiresIn : Option Int
  deriving DecidableEq, Repr

namespace TokenResponse

/-- What has been read of an answer; a member is there once it has been read, even as `null`. -/
structure Draft where
  accessToken : Option (Option String)
  tokenType : Option (Option String)
  expiresIn : Option (Option Int)

/-- The members in their order. -/
def fields : List (RecordField Draft) := [
  .of "access_token" (optional textReader) (·.accessToken) fun v d => { d with accessToken := v },
  .of "token_type" (optional textReader) (·.tokenType) fun v d => { d with tokenType := v },
  .of "expires_in" (optional int64Reader) (·.expiresIn) fun v d => { d with expiresIn := v }]

/-- The answer in a body. -/
def decode? (body : Bytes) : Option TokenResponse :=
  (Json.document (Json.record fields ⟨none, none, none⟩) (Text.Utf8.scan body)).map fun d =>
    ⟨d.accessToken.join, d.tokenType.join, d.expiresIn.join⟩

end TokenResponse

end CallTransfer
