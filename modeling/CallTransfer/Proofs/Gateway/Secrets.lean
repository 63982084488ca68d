import CallTransfer.Proofs.Gateway.Inputs
import CallTransfer.Proofs.Gateway.Traffic
import CallTransfer.Proofs.Secret.Vault

/-!
    Invocations with a STORED secret. Where an input names a secret, the client is the one that the
    vault hands out, and there is no other: a vault that hands out nobody ends the invocation, and
    nothing that is known of a client or a key besides counts for anything.
-/

namespace CallTransfer

open Secret (PutsIn)

/-! ### Asking -/

namespace World

variable {w : World} {arn : String} {client : Credentials}

/-- The world after its vault has been asked. -/
def asked (w : World) (arn : String) : World := { w with vault := w.vault.asked arn }

theorem retrieve_of_yields (h : w.vault.Yields arn client) :
    retrieve arn w = (.ok client, w.asked arn) := by
  simp only [retrieve, Act.zoom, Secret.Vault.retrieve_of_yields h, asked]

theorem retrieve_of_not_yields (h : ∀ client, ¬ w.vault.Yields arn client) :
    ∃ why, retrieve arn w = (.error (.failed (.auth why)), w.asked arn) := by
  obtain ⟨why, hr⟩ := Secret.Vault.retrieve_of_not_yields h
  exact ⟨why, by simp only [retrieve, Act.zoom, hr, asked]⟩

end World

/-! ### Choosing a mode -/

/-- The inputs that tell of a client or a key outright. -/
def Plan.outrightKeys : List String := ["apiKey", "oauthClientId", "oauthClientSecret"]

namespace Gateway

variable {plan other : Plan} {arn : String} {client : Credentials} {w : World}

/-- The client that the vault hands out is shown to the token endpoint. -/
theorem auth_of_yields (hn : plan.secretArn = some arn) (h : w.vault.Yields arn client) :
    auth World.retrieve plan w = (.ok (.oauth2 (authDomain plan) client), w.asked arn) := by
  have hc : Gateway.client World.retrieve plan w = (.ok client, w.asked arn) := by
    simp only [Gateway.client, hn]
    exact Act.run_rewording_ok (World.retrieve_of_yields h) secretRefusal
  obtain ⟨text, -, hkept⟩ := h.kept
  refine auth_eq_ok_iff.mpr ⟨client, hc, Auth.ofKnown?_eq_some_iff.mpr (Or.inl ⟨?_, rfl⟩)⟩
  exact ⟨hkept.id, hkept.secret⟩

/-- Without a client that the vault hands out, no mode is chosen. -/
theorem auth_of_refused (hn : plan.secretArn = some arn) {v : World} {why : String}
    (hr : World.retrieve arn w = (.error (.failed (.auth why)), v)) :
    auth World.retrieve plan w = (.error (.failed (.auth
      ("failed to retrieve OAuth credentials from Secrets Manager: " ++ why))), v) := by
  refine Act.run_bind_error ?_ _
  simp only [client, hn]
  exact Act.run_rewording_failed hr secretRefusal

/-- Plans with one secret and one token endpoint come to the same mode. -/
theorem auth_congr (hn : plan.secretArn = some arn) (hother : other.secretArn = some arn)
    (hd : authDomain other = authDomain plan) (w : World) :
    auth World.retrieve other w = auth World.retrieve plan w := by
  by_cases h : ∃ client, w.vault.Yields arn client
  · obtain ⟨client, hc⟩ := h
    rw [auth_of_yields hn hc, auth_of_yields hother hc, hd]
  · obtain ⟨why, hr⟩ := World.retrieve_of_not_yields (not_exists.mp h)
    rw [auth_of_refused hn hr, auth_of_refused hother hr]

/-- A mode is chosen exactly if the vault hands out a client, and it is the one with that. -/
theorem auth_eq_ok_iff_yields (hn : plan.secretArn = some arn) {made : Auth} {v : World} :
    auth World.retrieve plan w = (.ok made, v) ↔ ∃ client, w.vault.Yields arn client ∧
      made = .oauth2 (authDomain plan) client ∧ v = w.asked arn := by
  constructor
  · intro ha
    by_cases h : ∃ client, w.vault.Yields arn client
    · obtain ⟨client, hc⟩ := h
      cases (auth_of_yields hn hc).symm.trans ha
      exact ⟨client, hc, rfl, rfl⟩
    · obtain ⟨why, hr⟩ := World.retrieve_of_not_yields (not_exists.mp h)
      cases (auth_of_refused hn hr).symm.trans ha
  · rintro ⟨client, hc, rfl, rfl⟩
    exact auth_of_yields hn hc

/-! ### Handling -/

variable {settings : Settings} {event : Event}

theorem handle_of_error {v : World} {halt : Halt} (hm : Plan.make settings.env event = .ok plan)
    (ha : auth World.retrieve plan w = (.error halt, v)) :
    World.handle settings event w = (.error halt, v) :=
  @handle_of_auth_error World settings (World.services settings.http) event plan w v halt hm ha

theorem handle_of_ok {v : World} {made : Auth} (hm : Plan.make settings.env event = .ok plan)
    (ha : auth World.retrieve plan w = (.ok made, v)) :
    World.handle settings event w = Transfer.perform
      (Http.fetch settings.http World.attempt (some (made.header (World.issue settings.http))))
      (transfer settings event plan) plan.action v :=
  @handle_of_auth World settings (World.services settings.http) event plan w v made hm ha

/-- No round reaches the vault. -/
theorem Round.Goes.vault {retries : Nat} {made : Auth} {request : Http.Request} {r : Round}
    {after : World} (h : r.Goes retries made request w after) : after.vault = w.vault := by
  have hresolves {exchange : List Http.Attempt} {v : World} {value : Option String}
      (h : Resolves retries made w exchange v value) : v.vault = w.vault := by
    cases h with
    | token made handed => exact made.asked.vault
    | noToken made => exact made.asked.vault
    | key key => rfl
  cases h with
  | unauthorised resolved unfit => exact hresolves resolved
  | carried resolved url carries met => exact met.vault.trans (hresolves resolved)

/-- An invocation asks the vault once, when it chooses its mode. -/
theorem vault_of_handle (hm : Plan.make settings.env event = .ok plan)
    (hn : plan.secretArn = some arn) (w : World) :
    (World.handle settings event w).2.vault = w.vault.asked arn := by
  by_cases h : ∃ client, w.vault.Yields arn client
  · obtain ⟨client, hc⟩ := h
    obtain ⟨rounds, htraffic⟩ := traffic_of_auth hm (auth_of_yields hn hc)
    exact htraffic.walk.preserves (fun v => v.vault = w.vault.asked arn)
      (fun _ _ _ hgoes => hgoes.vault.trans) rfl
  · obtain ⟨why, hr⟩ := World.retrieve_of_not_yields (not_exists.mp h)
    rw [handle_of_error hm (auth_of_refused hn hr)]
    rfl

/-! ### What does not count -/

section Outright
variable {settings : Settings} {event otherEvent : Event} {otherEnv : Environment} {key : String}

/-- What is known outright of a client or a key goes into its place in a plan, and nowhere else. -/
theorem isMade_outright (hk : key ∈ Plan.outrightKeys) (henv : settings.env.SameBut key otherEnv)
    (hevent : event.SameBut key otherEvent) (hn : plan.secretArn = some arn)
    (hm : Plan.IsMade settings.env event plan) : Plan.IsMade otherEnv otherEvent { plan with
      clientId := Plan.input? otherEnv otherEvent "oauthClientId"
      clientSecret := Plan.input? otherEnv otherEvent "oauthClientSecret"
      apiKey := Plan.input? otherEnv otherEvent "apiKey" } := by
  have hsame (name : String) (hname : name ∉ Plan.outrightKeys) :
      Plan.input? settings.env event name = Plan.input? otherEnv otherEvent name :=
    input?_eq henv hevent fun he => hname (he ▸ hk)
  have hapi := hsame "apiDomain" (by decide)
  have hauth := hsame "authDomain" (by decide)
  have harn := hsame "oauthSecretArn" (by decide)
  have hwants : Plan.wantsTokens settings.env event = true := by
    rw [Plan.wantsTokens, ← hm.secretArn, hn]
    rfl
  have hregion := Plan.chosenRegion_congr (hsame "region" (by decide))
  have haction := Plan.required_congr (hsame "action" (by decide))
  have hagent := Plan.required_congr (hsame "virtualAgentName" (by decide))
  exact {
    paired := fun _ => by rw [← hapi, ← hauth]; exact hm.paired hwants
    region := by rw [← hapi, ← hregion]; exact hm.region
    domain := by rw [← hapi]; exact hm.domain
    authDomain := by rw [← hauth]; exact hm.authDomain
    action := by rw [← haction]; exact hm.action
    agent := by rw [← hagent]; exact hm.agent
    secretArn := by rw [← harn]; exact hm.secretArn
    clientId := rfl
    clientSecret := rfl
    apiKey := rfl }

/-- Nothing that is known outright of a client or a key shows in what comes of an invocation with a
    stored secret. -/
theorem handle_outright (hk : key ∈ Plan.outrightKeys) (henv : settings.env.SameBut key otherEnv)
    (hevent : event.SameBut key otherEvent) (hn : plan.secretArn = some arn)
    (hm : Plan.make settings.env event = .ok plan) (w : World) :
    World.handle { settings with env := otherEnv } otherEvent w =
      World.handle settings event w := by
  let otherSettings : Settings := { settings with env := otherEnv }
  let other : Plan := { plan with
    clientId := Plan.input? otherEnv otherEvent "oauthClientId"
    clientSecret := Plan.input? otherEnv otherEvent "oauthClientSecret"
    apiKey := Plan.input? otherEnv otherEvent "apiKey" }
  have hother : Plan.make otherSettings.env otherEvent = .ok other :=
    Plan.make_eq_ok_iff.mpr (isMade_outright hk henv hevent hn (Plan.make_eq_ok_iff.mp hm))
  have hsecret : other.secretArn = some arn := hn
  have hdomain : authDomain other = authDomain plan := rfl
  have hauth := auth_congr hn hsecret hdomain w
  have hinput : ∀ key ∈ Plan.outrightKeys, key ∈ Plan.inputKeys := by decide
  have hrequest : (transfer settings event plan).request plan.action =
      (transfer otherSettings otherEvent other).request other.action :=
    request_congr (hinput key hk) rfl rfl hevent plan plan.action
  have hanswer : Transfer.answer ((transfer settings event plan).url plan.action) plan.action =
      Transfer.answer ((transfer otherSettings otherEvent other).url other.action)
        other.action := rfl
  change World.handle otherSettings otherEvent w = World.handle settings event w
  rcases ha : auth World.retrieve plan w with ⟨halt | made, v⟩
  · rw [ha] at hauth
    rw [handle_of_error hm ha, handle_of_error hother hauth]
  · rw [ha] at hauth
    rw [handle_of_ok hm ha, handle_of_ok hother hauth, Transfer.perform, Transfer.perform,
      hrequest, hanswer]

end Outright

/-- AS STORED: an invocation that names a stored secret asks the vault once, in the region that
    stands in the fourth field of the name, and not at all if the name does not put secrets into
    regions. It goes on exactly if the vault hands out a client, and then it is that client's tokens
    that authorise it. In every other case it fails to authorise, and nothing goes out. What is
    known outright of a client or a key, in the event or in the environment, makes no difference. -/
theorem handle_stored {settings : Settings} {event : Event}
    (hm : Plan.make settings.env event = .ok plan)
    (ha : Plan.input? settings.env event "oauthSecretArn" = some arn) (w : World) :
    let result := (World.handle settings event w).1
    let after := (World.handle settings event w).2
    (∀ region, PutsIn arn region → (Text.fields ':' arn.toList)[3]? = some region.toList ∧
      after.vault.calls =
        w.vault.calls ++ if w.vault.isolated then [] else [⟨region, arn⟩]) ∧
    ((∀ region, ¬ PutsIn arn region) → after.vault.calls = w.vault.calls) ∧
    (∀ made v, auth World.retrieve plan w = (.ok made, v) ↔ ∃ client, w.vault.Yields arn client ∧
      made = .oauth2 (authDomain plan) client ∧ v = w.asked arn) ∧
    (∀ client, w.vault.Yields arn client → World.handle settings event w =
      Transfer.perform
        (Http.fetch settings.http World.attempt (some do
          return "Bearer " ++ (← World.issue settings.http (authDomain plan) client)))
        (transfer settings event plan) plan.action (w.asked arn)) ∧
    ((∀ client, ¬ w.vault.Yields arn client) →
      after.network = w.network ∧ after.desk = w.desk ∧ ∃ why, result =
        .error (.failed (.auth
          ("failed to retrieve OAuth credentials from Secrets Manager: " ++ why)))) ∧
    ∀ key ∈ Plan.outrightKeys, ∀ otherEnv otherEvent, settings.env.SameBut key otherEnv →
      event.SameBut key otherEvent →
        World.handle { settings with env := otherEnv } otherEvent w =
          World.handle settings event w := by
  intro result after
  have hmade := Plan.make_eq_ok_iff.mp hm
  have hn : plan.secretArn = some arn := hmade.secretArn.trans ha
  have hcalls : after.vault.calls = w.vault.calls ++ w.vault.reached arn :=
    congrArg (·.calls) (vault_of_handle hm hn w)
  refine ⟨fun region hr => ⟨hr.field, ?_⟩, fun hr => ?_, fun made v => auth_eq_ok_iff_yields hn,
    fun client hc => ?_, fun hnone => ?_, fun key hk otherEnv otherEvent henv hevent => ?_⟩
  · rw [hcalls, Secret.Vault.reached_of_putsIn hr]
  · rw [hcalls, Secret.Vault.reached_of_not_putsIn hr, List.append_nil]
  · have hwants : Plan.wantsTokens settings.env event = true := by
      rw [Plan.wantsTokens, ha]
      rfl
    have hdomain := (tokenEndpoint_of_isMade hmade hwants).ne_empty
    rw [handle_of_ok hm (auth_of_yields hn hc), Auth.header, if_neg hdomain]
  · obtain ⟨why, hr⟩ := World.retrieve_of_not_yields hnone
    have hhandle := handle_of_error hm (auth_of_refused hn hr)
    exact ⟨congrArg (·.2.network) hhandle, congrArg (·.2.desk) hhandle, why,
      congrArg Prod.fst hhandle⟩
  · exact handle_outright hk henv hevent hn hm w

/-- A secret with the id of a client twice: the later one counts, and a key does not. -/
theorem handle_stored_twice :
    ∃ (settings : Settings) (event : Event) (plan : Plan) (w : World) (arn : String),
      Plan.make settings.env event = .ok plan ∧ plan.apiKey = some "key" ∧
        w.vault.reply = .text ("\x7b\"oauthClientId\":\"old\",\"oauthClientSecret\":\"secret\"," ++
          "\"oauthClientId\":\"id\"\x7d") ∧
        auth World.retrieve plan w = (.ok (.oauth2 "https://auth.us-west-2-prod.cresta.ai"
          ⟨"id", "secret"⟩), w.asked arn) ∧
        (World.handle settings event w).2.vault.calls = [⟨"eu-west-1", arn⟩] := by
  let arn := "arn:aws:secretsmanager:eu-west-1:1:secret:name"
  let settings : Settings := .ofEnvironment
    ⟨[("region", "voice-prod"), ("oauthSecretArn", arn), ("apiKey", "key")]⟩
  let event : Event := ⟨[], [("action", "get_handoff_data"),
    ("virtualAgentName", "customers/acme/profiles/main/virtualAgents/va")], none⟩
  let plan : Plan := {
    region := "voice-prod", domain := "https://api.voice-prod.cresta.com", authDomain := none
    action := .handoff, agent := ⟨"acme", "main", "va"⟩, secretArn := some arn, clientId := none
    clientSecret := none, apiKey := some "key" }
  let text := "\x7b\"oauthClientId\":\"old\",\"oauthClientSecret\":\"secret\"," ++
    "\"oauthClientId\":\"id\"\x7d"
  let w : World := ⟨⟨true, [], []⟩, .opened 0, ⟨false, .text text, []⟩⟩
  have hm : Plan.make settings.env event = .ok plan := Plan.make_eq_ok_iff.mpr
    ⟨by decide +kernel, by decide +kernel, by decide +kernel, by decide +kernel, by decide +kernel,
      by decide +kernel, by decide +kernel, by decide +kernel, by decide +kernel,
      by decide +kernel⟩
  have ha : Plan.input? settings.env event "oauthSecretArn" = some arn := by decide +kernel
  obtain ⟨hcalls, -, hauth, -⟩ := handle_stored hm ha w
  have hregion : PutsIn arn "eu-west-1" := Secret.region?_eq_some_iff.mp (by decide +kernel)
  have hyields : w.vault.Yields arn ⟨"id", "secret"⟩ :=
    ⟨⟨_, hregion⟩, text, rfl, Credentials.parse_eq_ok_iff.mp (by decide +kernel)⟩
  refine ⟨settings, event, plan, w, arn, hm, rfl, rfl, ?_, (hcalls _ hregion).2⟩
  exact (hauth _ _).mpr ⟨_, hyields, by decide +kernel, rfl⟩

end Gateway

end CallTransfer
