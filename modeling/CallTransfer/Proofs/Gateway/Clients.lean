import CallTransfer.Proofs.Gateway.Rounds

/-!
    Clients at the token endpoint. A client PRESENTS itself by a Basic header, from which id and
    secret can be told bit by bit; there is no client that could not do so, and none that is turned
    away before its request.
-/

namespace CallTransfer

/-! ### Failures of calls -/

/-- What an attempt comes to is no failure to authorise. -/
theorem Http.concluded_ne_auth (attempts : Nat) (outcome : Outcome) (text : String) :
    concluded attempts (.ok outcome) ≠ .error (.failed (.auth text)) := by
  intro h
  rw [concluded] at h
  split at h
  · cases h
  · cases outcome <;> cases h

/-- A call without authorisation does not fail to authorise. -/
theorem World.fetch_ne_auth (settings : RetrySettings) (request : Http.Request) (w after : World)
    (text : String) : fetch settings request w ≠ (.error (.failed (.auth text)), after) := by
  intro h
  cases hu : Url.parse request.url with
  | error fault => cases (Http.fetch_of_error hu w).symm.trans h
  | ok url =>
    obtain ⟨_, v, -, -, hc | ⟨round, t, hround, hf, -⟩⟩ :=
      Http.fetch_walk settings attempt none hu w
    · cases hc.symm.trans h
    · obtain ⟨outcome, _, ha, -⟩ := exists_attempt_meets url request v
      cases ha.symm.trans hround
      exact Http.concluded_ne_auth _ outcome text (congrArg Prod.fst (hf.symm.trans h))

namespace Credentials

/-- NOTHING is lost in a Basic header, and nothing keeps one from being sent. Behind the scheme
    stands the one text that the standard has for the bytes of the id, a colon and the secret, and
    the one that decodes to these. So a header is read as a client exactly if it is the one that is
    written for that and the id has no colon, and clients without one in their ids have headers of
    their own. All bytes of a header are allowed in one: an exchange says that credentials hold
    invalid characters only if the call that it makes has failed with that, and the calls of a world
    never do. -/
theorem basicHeader_reads_back :
    (∀ client : Credentials, ∃ text, client.basicHeader = "Basic " ++ String.ofList text ∧
      ∀ other,
        (Text.Base64.Spells other
          (Text.Utf8.encode client.id ++ 0x3A :: Text.Utf8.encode client.secret) ↔ other = text) ∧
        (Text.Base64.decode? other =
          some (Text.Utf8.encode client.id ++ 0x3A :: Text.Utf8.encode client.secret) ↔
            other = text)) ∧
    (∀ (value : String) (client : Credentials), ofBasicHeader? value = some client ↔
      value = client.basicHeader ∧ ':' ∉ client.id.toList) ∧
    (∀ client other : Credentials, ':' ∉ client.id.toList → ':' ∉ other.id.toList →
      client.basicHeader = other.basicHeader → client = other) ∧
    (∀ client : Credentials, ∀ b ∈ Text.Utf8.encode client.basicHeader,
      Http.isHeaderByte b = true) ∧
    (∀ {σ : Type} (fetch : Http.Request → Act σ Bytes) (get : σ → TokenDesk)
      (set : TokenDesk → σ → σ) (domain : String) (client : Credentials) (s t : σ),
      TokenExchange.issue fetch get set domain client s =
          (.error (.failed (.auth "client credentials contain invalid characters")), t) →
        fetch (TokenExchange.request domain client) s =
          (.error (.failed (.auth "client credentials contain invalid characters")), t)) ∧
    ∀ (settings : RetrySettings) (domain : String) (client : Credentials) (w after : World),
      World.issue settings domain client w ≠
        (.error (.failed (.auth "client credentials contain invalid characters")), after) := by
  refine ⟨fun client => ?_, fun value client => ofBasicHeader?_eq_some_iff,
    fun client other hc ho h => ?_, fun client => ?_, ?_, ?_⟩
  · rw [← encode_joined]
    exact ⟨_, rfl, fun _ => ⟨Text.Base64.spells_iff, Text.Base64.decode?_eq_some_iff⟩⟩
  · -- both are what the one header is read as
    have hread := ofBasicHeader?_eq_some_iff.mpr ⟨rfl, hc⟩
    have hother := ofBasicHeader?_eq_some_iff.mpr ⟨h, ho⟩
    exact Option.some.inj (hread.symm.trans hother)
  · rw [← List.all_eq_true, ← Http.isHeaderValue_eq]
    exact client.isHeaderValue_basicHeader
  · intro σ fetch get set domain client s t h
    exact TokenExchange.fetch_of_issue_eq_unfit h
  · intro settings domain client w after h
    exact World.fetch_ne_auth settings _ w after _ (TokenExchange.fetch_of_issue_eq_unfit h)

/-- A header is read as the client without a colon in its id where it is that of another one, too;
    and control characters do no harm to it. -/
theorem basicHeader_reads_back_colon :
    let client : Credentials := ⟨"ü\n", "\x00:b"⟩
    let other : Credentials := ⟨"ü\n:\x00", "b"⟩
    ':' ∉ client.id.toList ∧ ':' ∈ other.id.toList ∧ client.basicHeader = other.basicHeader ∧
      ofBasicHeader? other.basicHeader = some client ∧
      (Text.Utf8.encode other.basicHeader).all Http.isHeaderByte = true := by
  intro client other
  have hplain : ':' ∉ client.id.toList := by decide
  have hsame : client.basicHeader = other.basicHeader := basicHeader_eq_iff.mpr (by decide)
  obtain ⟨-, hread, -, hbytes, -⟩ := basicHeader_reads_back
  exact ⟨hplain, by decide, hsame, (hread _ client).mpr ⟨hsame.symm, hplain⟩,
    List.all_eq_true.mpr (hbytes other)⟩

example : basicHeader ⟨"id", "secret"⟩ = "Basic aWQ6c2VjcmV0" := by decide

end Credentials

end CallTransfer
