import CallTransfer.Gateway.World
import CallTransfer.Proofs.Url.PlainOrigin

/-!
    How an invocation is authorised. Whether the inputs call for tokens is asked before anything
    else; the mode is chosen much later, from what is known of the client by then. The two agree,
    and that is why a client's secret goes nowhere but to an endpoint that has been checked: one
    that was given, as the API endpoint was, or the one of a region whose name has passed.
-/

namespace CallTransfer

/-! ### What is known of a client -/

/-- A keeper of secrets hands out WHOLE credentials: neither their id nor their secret is empty. -/
def GivesWhole (retrieve : String → Act σ Credentials) : Prop :=
  ∀ arn s client t, retrieve arn s = (.ok client, t) → client.id ≠ "" ∧ client.secret ≠ ""

theorem Credentials.ne_empty_of_nonempty? {ms : Members Json.Value} {key text : String}
    (h : nonempty? ms key = some text) : text ≠ "" :=
  of_decide_eq_true (Option.filter_eq_some_iff.mp h).2

theorem Credentials.whole_of_parse {text : String} {client : Credentials}
    (h : parse text = .ok client) : client.id ≠ "" ∧ client.secret ≠ "" := by
  unfold parse at h
  split at h
  · cases h
  · split at h
    · cases h
    · split at h
      · rename_i hid hsecret
        cases h
        exact ⟨ne_empty_of_nonempty? hid, ne_empty_of_nonempty? hsecret⟩
      · cases h

/-- Only a text gives credentials. -/
theorem Secret.Reply.whole_of_credentials {reply : Reply} {client : Credentials}
    (h : reply.credentials = .ok client) : client.id ≠ "" ∧ client.secret ≠ "" := by
  cases reply with
  | text secret =>
    simp only [credentials] at h
    split at h
    · rename_i hp
      cases h
      exact Credentials.whole_of_parse hp
    · cases h
  | binary => cases h
  | refused why => cases h

/-- The vault hands out whole credentials. -/
theorem World.givesWhole_retrieve : GivesWhole World.retrieve := by
  intro arn s client t h
  simp only [retrieve, Act.zoom, Secret.Vault.retrieve] at h
  cases hr : Secret.region? arn with
  | none =>
    rw [hr] at h
    cases h
  | some region =>
    rw [hr] at h
    simp only at h
    split at h
    rename_i hs
    split at hs
    · rename_i hc
      cases hs
      cases h
      exact Secret.Reply.whole_of_credentials hc
    · cases hs
      cases h

/-! ### Token endpoints of regions -/

/-- A character of a region's name, in any case, stands for itself in a host. -/
theorem Region.isPlaceChar_of_isNameChar {c : Char}
    (h : isNameChar (Text.lowerChar c) = true) : Url.isPlaceChar c = true := by
  by_cases hc : c.toNat < 0x80
  · have hall : ∀ n < 0x80, isNameChar (Text.lowerChar (Char.ofNat n)) = true →
        Url.isPlaceChar (Char.ofNat n) = true := by
      decide
    have hn := hall c.toNat hc
    rw [Char.ofNat_toNat] at hn
    exact hn h
  · -- what does not stand for itself there is ASCII
    have hall : ∀ d ∈ "/\\?#@".toList, d.toNat < 0x80 := Text.forall_of_all (by decide)
    have hs : c ∉ "/\\?#@".toList := fun hm => hc (hall c hm)
    have hb : Url.isOuterBlank c = false := decide_eq_false fun hn => hc (by omega)
    rw [Url.isPlaceChar, hb, Bool.eq_false_iff.mpr (mt List.contains_iff_mem.mp hs)]
    rfl

/-- The region that issues a region's tokens has a name if the region has one. -/
theorem Region.isName_tokenIssuer {region : String} (h : isName (Text.lower region.toList) = true) :
    isName (Text.lower (tokenIssuer region).toList) = true := by
  rcases tokenIssuer_cases region with hi | hi
  · rwa [hi]
  · rw [hi]
    decide

/-- The token endpoint of a region with a name is a plain origin: the name goes into its host, and
    into nothing else. -/
theorem Region.isPlainOrigin_tokenDomain {region : String}
    (h : isName (Text.lower region.toList) = true) :
    Url.isPlainOrigin (tokenDomain region) = true := by
  have hchars : ∀ c ∈ (tokenIssuer region).toList, Url.isPlaceChar c = true := by
    intro c hc
    have hall := (Bool.and_eq_true_iff.mp (isName_tokenIssuer h)).2
    refine isPlaceChar_of_isNameChar (List.all_eq_true.mp hall _ ?_)
    exact List.mem_map_of_mem hc
  have hfixed : "https://auth.".toList = "https".toList ++ ':' :: '/' :: '/' :: "auth.".toList := by
    decide
  have htext : (tokenDomain region).toList = "https".toList ++ ':' :: '/' :: '/' ::
      ("auth.".toList ++ (tokenIssuer region).toList ++ ".cresta.ai".toList) := by
    simp only [tokenDomain, String.toList_append, hfixed, List.append_assoc, List.cons_append]
  refine Url.isPlainOrigin_iff.mpr ⟨"https".toList, _, Url.splitScheme?_eq_some_iff.mpr
    ⟨"https".toList, htext, Text.forall_of_all (by decide), by decide, by decide⟩, ?_⟩
  intro c hc
  have hauth : ∀ c ∈ "auth.".toList, Url.isPlaceChar c = true := Text.forall_of_all (by decide)
  have hcresta : ∀ c ∈ ".cresta.ai".toList, Url.isPlaceChar c = true :=
    Text.forall_of_all (by decide)
  rcases List.mem_append.mp hc with hc | hc
  · rcases List.mem_append.mp hc with hc | hc
    · exact hauth c hc
    · exact hchars c hc
  · exact hcresta c hc

namespace Gateway

variable {env : Environment} {event : Event} {plan : Plan}

/-- An input is there exactly when it is something. -/
theorem getD_input?_ne_empty_iff {key : String} :
    (Plan.input? env event key).getD "" ≠ "" ↔ (Plan.input? env event key).isSome = true := by
  cases h : Plan.input? env event key with
  | none => exact ⟨fun hn => absurd rfl hn, nofun⟩
  | some text => exact ⟨fun _ => rfl, fun _ => Plan.ne_empty_of_input? h⟩

/-- The client is known in full exactly when the inputs call for tokens. -/
theorem client_whole_iff {retrieve : String → Act σ Credentials} (hw : GivesWhole retrieve)
    (hm : Plan.IsMade env event plan) {s t : σ} {c : Credentials}
    (hc : client retrieve plan s = (.ok c, t)) :
    (c.id ≠ "" ∧ c.secret ≠ "") ↔ Plan.wantsTokens env event = true := by
  unfold client at hc
  unfold Plan.wantsTokens
  cases ha : plan.secretArn with
  | some arn =>
    have hi : Plan.input? env event "oauthSecretArn" = some arn := hm.secretArn ▸ ha
    rw [ha] at hc
    have hwhole := hw arn s c t (Act.run_rewording_eq_ok_iff.mp hc)
    exact ⟨fun _ => by rw [hi]; rfl, fun _ => hwhole⟩
  | none =>
    have hi : Plan.input? env event "oauthSecretArn" = none := hm.secretArn ▸ ha
    rw [ha] at hc
    cases hc
    rw [hm.clientId, hm.clientSecret, getD_input?_ne_empty_iff, getD_input?_ne_empty_iff, hi,
      Option.isSome_none, Bool.false_or, Bool.and_eq_true]

/-- Where the tokens of an invocation are issued, and where its API is. -/
inductive TokenEndpoint (env : Environment) (event : Event) (plan : Plan) (domain : String) : Prop
  /-- Both endpoints were given, and both have been checked. -/
  | given (api auth : String)
      (apiGiven : Plan.input? env event "apiDomain" = some api)
      (authGiven : Plan.input? env event "authDomain" = some auth)
      (apiDomain : plan.domain = Domain.withScheme api)
      (authDomain : domain = Domain.withScheme auth)
      (apiChecked : ∃ url, Domain.parse plan.domain = .ok url)
      (authChecked : ∃ url, Domain.parse domain = .ok url)
  /-- Neither was given, and both are those of a region that was, whose name has been checked. -/
  | ofRegion (region : String)
      (apiMissing : Plan.input? env event "apiDomain" = none)
      (authMissing : Plan.input? env event "authDomain" = none)
      (regionGiven : Plan.input? env event "region" = some region)
      (nameChecked : Region.isName (Text.lower region.toList) = true)
      (apiDomain : plan.domain = "https://api." ++ String.ofList (Text.lower region.toList) ++
        if Region.isProduction (Text.lower region.toList) then ".cresta.com" else ".cresta.ai")
      (authDomain : domain = "https://auth." ++ Region.tokenIssuer region ++ ".cresta.ai")
      (plain : Url.isPlainOrigin domain = true)

/-- No endpoint without a text. -/
theorem TokenEndpoint.ne_empty {domain : String} (h : TokenEndpoint env event plan domain) :
    domain ≠ "" := by
  cases h with
  | given api auth _ _ _ _ _ authChecked =>
    obtain ⟨url, hu⟩ := authChecked
    exact (Domain.parse_eq_ok_iff.mp hu).1
  | ofRegion region _ _ _ _ _ _ plain =>
    rintro rfl
    cases plain

/-- Where the inputs call for tokens, the endpoint of the plan is one that has been checked. -/
theorem tokenEndpoint_of_isMade (hm : Plan.IsMade env event plan)
    (hw : Plan.wantsTokens env event = true) :
    TokenEndpoint env event plan (authDomain plan) := by
  have hpaired := hm.paired hw
  obtain ⟨hauth, hchecked⟩ := Plan.chosenAuthDomain_eq_ok_iff.mp hm.authDomain
  cases hapi : Plan.input? env event "apiDomain" with
  | some api =>
    obtain ⟨auth, hgiven⟩ : ∃ auth, Plan.input? env event "authDomain" = some auth := by
      rw [hapi] at hpaired
      exact Option.isSome_iff_exists.mp hpaired.symm
    have hdomain := hm.domain
    rw [hapi] at hdomain
    obtain ⟨hd, hapiChecked⟩ := Plan.chosenDomain_some_eq_ok_iff.mp hdomain
    rw [hgiven] at hauth
    have hd' : authDomain plan = Domain.withScheme auth := by
      rw [authDomain, hauth]
      rfl
    exact .given api auth hapi hgiven hd hd' hapiChecked (hd' ▸ hchecked _ hauth)
  | none =>
    have hmissing : Plan.input? env event "authDomain" = none := by
      rw [hapi] at hpaired
      exact Option.isSome_eq_false_iff.mp hpaired.symm |> Option.isNone_iff_eq_none.mp
    have hregion := hm.region
    have hdomain := hm.domain
    rw [hapi] at hregion hdomain
    have hgiven := Plan.input?_of_chosenRegion hregion
    obtain ⟨hname, hd⟩ :=
      Region.apiDomain?_eq_some_iff.mp (Plan.chosenDomain_none_eq_ok_iff.mp hdomain).1
    rw [hmissing] at hauth
    have hd' : authDomain plan = Region.tokenDomain plan.region := by
      rw [authDomain, hauth]
      rfl
    exact .ofRegion plan.region hapi hmissing hgiven hname hd hd'
      (hd' ▸ Region.isPlainOrigin_tokenDomain hname)

/-- AS FORESEEN: once its client is known, an invocation is authorised by a token exactly when the
    inputs call for tokens. The client is then shown to one endpoint only, and that has been
    checked. -/
theorem handle_authorised {settings : Settings} {services : Services σ}
    (hw : GivesWhole services.retrieve) (hm : Plan.make settings.env event = .ok plan)
    {auth : Auth} {s t : σ} (ha : Gateway.auth services.retrieve plan s = (.ok auth, t)) :
    handle settings services event s =
        Transfer.perform
          (Http.fetch settings.http services.attempt (some (auth.header services.issue)))
          (transfer settings event plan) plan.action t ∧
      (auth.isOauth2 = true ↔ Plan.wantsTokens settings.env event = true) ∧
      ∀ domain client, auth = .oauth2 domain client →
        TokenEndpoint settings.env event plan domain ∧
          auth.header services.issue = do return "Bearer " ++ (← services.issue domain client) := by
  have hmade := Plan.make_eq_ok_iff.mp hm
  obtain ⟨c, hc, hk⟩ := auth_eq_ok_iff.mp ha
  have hiff := client_whole_iff hw hmade hc
  refine ⟨?_, ?_, ?_⟩
  · have hplan : (Act.ofExcept id (Plan.make settings.env event) : Act σ Plan) s =
        (.ok plan, s) := by
      rw [hm]
      rfl
    rw [handle, Act.run_bind_ok hplan, Act.run_bind_ok ha]
  · rw [← hiff]
    rcases Auth.ofKnown?_eq_some_iff.mp hk with ⟨hwhole, rfl⟩ | ⟨hwhole, -, rfl⟩
    · exact ⟨fun _ => hwhole, fun _ => rfl⟩
    · exact ⟨nofun, fun h => absurd h hwhole⟩
  · rintro domain client rfl
    rcases Auth.ofKnown?_eq_some_iff.mp hk with ⟨hwhole, he⟩ | ⟨-, -, he⟩
    · cases he
      have hend := tokenEndpoint_of_isMade hmade (hiff.mp hwhole)
      exact ⟨hend, if_neg hend.ne_empty⟩
    · cases he

/-- A region whose tokens another one issues, with the client's id in the environment and its secret
    in the event: the key counts for nothing. -/
theorem handle_authorised_voice :
    ∃ (settings : Settings) (event : Event) (plan : Plan) (auth : Auth) (w : World),
      Plan.make settings.env event = .ok plan ∧
        Gateway.auth World.retrieve plan w = (.ok auth, w) ∧ auth.isOauth2 = true ∧
        TokenEndpoint settings.env event plan "https://auth.us-west-2-prod.cresta.ai" := by
  let settings : Settings := .ofEnvironment
    ⟨[("region", "voice-prod"), ("oauthClientId", "id"), ("apiKey", "key")]⟩
  let event : Event := ⟨[], [("oauthClientSecret", "secret"), ("action", "get_handoff_data"),
    ("virtualAgentName", "customers/acme/profiles/main/virtualAgents/va")], none⟩
  let plan : Plan := {
    region := "voice-prod", domain := "https://api.voice-prod.cresta.com", authDomain := none
    action := .handoff, agent := ⟨"acme", "main", "va"⟩, secretArn := none, clientId := some "id"
    clientSecret := some "secret", apiKey := some "key" }
  let auth : Auth := .oauth2 "https://auth.us-west-2-prod.cresta.ai" ⟨"id", "secret"⟩
  let w : World := ⟨⟨true, [], []⟩, .opened 0, ⟨true, .binary, []⟩⟩
  have hm : Plan.make settings.env event = .ok plan := Plan.make_eq_ok_iff.mpr
    ⟨by decide +kernel, by decide +kernel, by decide +kernel, by decide +kernel, by decide +kernel,
      by decide +kernel, by decide +kernel, by decide +kernel, by decide +kernel,
      by decide +kernel⟩
  have ha : Gateway.auth (World.services settings.http).retrieve plan w = (.ok auth, w) :=
    auth_eq_ok_iff.mpr ⟨⟨"id", "secret"⟩, rfl, by decide +kernel⟩
  obtain ⟨-, hiff, hend⟩ := handle_authorised World.givesWhole_retrieve hm ha
  exact ⟨settings, event, plan, auth, w, hm, ha, hiff.mpr (by decide +kernel),
    (hend _ _ rfl).1⟩

end Gateway

end CallTransfer
