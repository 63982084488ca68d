import CallTransfer.Gateway.World

/-!
    Where inputs come from. An invocation looks at nine inputs, and each of them may be a parameter
    of the event or a variable of the environment. Which one it is shows neither in the plan nor in
    what is told of the event, since the parameters that are inputs are all held back.
-/

namespace CallTransfer

/-- The inputs of an invocation. -/
def Plan.inputKeys : List String :=
  ["region", "apiDomain", "authDomain", "action", "apiKey", "oauthClientId", "oauthClientSecret",
    "oauthSecretArn", "virtualAgentName"]

/-! ### One input apart -/

/-- Environments that differ in one variable at most. -/
def Environment.SameBut (key : String) (env other : Environment) : Prop :=
  ∀ name, name ≠ key → env.get? name = other.get? name

/-- Events that tell the same of a contact and differ in one parameter at most. -/
structure Event.SameBut (key : String) (event other : Event) : Prop where
  contact : event.contact = other.contact
  parameters : event.parameters.erase key = other.parameters.erase key

/-- All other parameters are the same. -/
theorem Event.SameBut.parameter? {key : String} {event other : Event}
    (h : event.SameBut key other) {name : String} (hn : name ≠ key) :
    event.parameter? name = other.parameter? name := by
  have hf := congrArg (Members.find? name) h.parameters
  rw [Members.find?_erase, Members.find?_erase, if_neg hn, if_neg hn] at hf
  rw [Event.parameter?, Event.parameter?, hf]

/-- What is held back of the parameters does not show in those that are passed on. -/
theorem Transfer.forwarded_erase {key : String} (hk : key ∈ ownKeys) (parameters : Members String) :
    forwarded (parameters.erase key) = forwarded parameters := by
  have hkeep : ∀ p : String × String, (p.1 != key && !ownKeys.contains p.1) =
      !ownKeys.contains p.1 := by
    intro p
    by_cases hp : p.1 = key
    · rw [hp, List.contains_iff_mem.mpr hk]
      simp
    · simp [hp]
  rw [forwarded, forwarded, Members.erase, List.filter_filter]
  simp only [Bool.and_comm, hkeep]

/-! ### Setting one input -/

/-- The environment with a variable set, whatever it was set to before. -/
def Environment.set (env : Environment) (name value : String) : Environment :=
  ⟨(name, value) :: env.vars⟩

/-- The event with a parameter set, whatever it was before. -/
def Event.set (event : Event) (key value : String) : Event :=
  { event with parameters := event.parameters.insert key value }

/-- A variable that is set to something is there. -/
theorem Environment.get?_set (env : Environment) (name : String) {value : String}
    (hv : value ≠ "") : (env.set name value).get? name = some value := by
  rw [get?, var?, set, List.lookup_cons_self, Option.filter_some, if_pos (decide_eq_true hv)]

/-- Setting a variable leaves the others alone. -/
theorem Environment.set_sameBut (env : Environment) (name value : String) :
    (env.set name value).SameBut name env := by
  intro other hn
  rw [get?, get?, var?, var?, set, List.lookup_cons, beq_eq_false_iff_ne.mpr hn]

/-- A parameter that is set to something is there. -/
theorem Event.parameter?_set (event : Event) (key : String) {value : String} (hv : value ≠ "") :
    (event.set key value).parameter? key = some value := by
  rw [parameter?, set, Members.find?_insert, if_pos rfl, Option.filter_some,
    if_pos (decide_eq_true hv)]

/-- Nothing is left of a member that is set and dropped. -/
theorem Members.erase_insert (k : String) (v : α) (ms : Members α) :
    (ms.insert k v).erase k = ms.erase k := by
  induction ms with
  | nil => simp [insert, erase]
  | cons m ms ih =>
    obtain ⟨k', v'⟩ := m
    simp only [erase] at ih
    simp only [insert]
    split
    · simp [erase]
    · split
      · rename_i h
        simp [erase, h]
      · rename_i h
        simp [erase, ih, Ne.symm h]

/-- Setting a parameter leaves the others, and what is known of the contact, alone. -/
theorem Event.sameBut_set (event : Event) (key value : String) :
    event.SameBut key (event.set key value) :=
  ⟨rfl, (Members.erase_insert key value event.parameters).symm⟩

/-! ### What is made of the inputs -/

namespace Plan

/-- The inputs that are secret. -/
def secretKeys : List String := ["apiKey", "oauthClientSecret"]

/-- A plan with other secrets. -/
def withSecrets (plan : Plan) (clientSecret apiKey : Option String) : Plan :=
  { plan with clientSecret, apiKey }

section Congruence

variable {env otherEnv : Environment} {event otherEvent : Event}

theorem givenDomains_congr (hw : wantsTokens env event = wantsTokens otherEnv otherEvent)
    (hapi : input? env event "apiDomain" = input? otherEnv otherEvent "apiDomain")
    (hauth : input? env event "authDomain" = input? otherEnv otherEvent "authDomain") :
    givenDomains env event = givenDomains otherEnv otherEvent := by
  rw [givenDomains, givenDomains, hw, hapi, hauth]

theorem chosenRegion_congr (h : input? env event "region" = input? otherEnv otherEvent "region") :
    chosenRegion env event = chosenRegion otherEnv otherEvent := by
  unfold chosenRegion
  rw [h]

theorem required_congr {key : String} (h : input? env event key = input? otherEnv otherEvent key) :
    required env event key = required otherEnv otherEvent key := by
  rw [required, required, h]

/-- A plan is made of the inputs, wherever they come from. What the secrets are does not count, as
    long as tokens are called for or not as before: they are put into the plan as they are. -/
theorem make_withSecrets (hw : wantsTokens env event = wantsTokens otherEnv otherEvent)
    (h : ∀ key ∈ inputKeys, key ∉ secretKeys →
      input? env event key = input? otherEnv otherEvent key) :
    make otherEnv otherEvent = (make env event).map fun plan =>
      plan.withSecrets (input? otherEnv otherEvent "oauthClientSecret")
        (input? otherEnv otherEvent "apiKey") := by
  have hdomains := givenDomains_congr hw (h "apiDomain" (by decide) (by decide))
    (h "authDomain" (by decide) (by decide))
  have hregion := chosenRegion_congr (h "region" (by decide) (by decide))
  have haction := required_congr (h "action" (by decide) (by decide))
  have hagent := required_congr (h "virtualAgentName" (by decide) (by decide))
  have hid := h "oauthClientId" (by decide) (by decide)
  have harn := h "oauthSecretArn" (by decide) (by decide)
  unfold make
  rw [hdomains, hregion, haction, hagent, hid, harn]
  change _ = _ <$> _
  simp only [map_bind, map_pure]
  rfl

/-- A plan is made of the inputs, wherever they come from. -/
theorem make_congr (h : ∀ key ∈ inputKeys, input? env event key = input? otherEnv otherEvent key) :
    make env event = make otherEnv otherEvent := by
  have hw : wantsTokens env event = wantsTokens otherEnv otherEvent := by
    rw [wantsTokens, wantsTokens, h "oauthSecretArn" (by decide), h "oauthClientId" (by decide),
      h "oauthClientSecret" (by decide)]
  rw [make_withSecrets hw fun key hk _ => h key hk, ← h "oauthClientSecret" (by decide),
    ← h "apiKey" (by decide)]
  cases hm : make env event with
  | error failure => rfl
  | ok plan =>
    have hmade := make_eq_ok_iff.mp hm
    rw [← hmade.clientSecret, ← hmade.apiKey]
    rfl

end Congruence

/-- Inputs are meant for the gateway. -/
theorem mem_ownKeys {key : String} (hk : key ∈ inputKeys) : key ∈ Transfer.ownKeys := by
  revert key
  decide

end Plan

/-- No setting but an input is read from the variable of an input. -/
theorem Environment.SameBut.settings {key : String} {env other : Environment}
    (hk : key ∈ Plan.inputKeys) (h : env.SameBut key other) :
    (Settings.ofEnvironment env).http = (Settings.ofEnvironment other).http ∧
      (Settings.ofEnvironment env).supportedDtmfChars =
        (Settings.ofEnvironment other).supportedDtmfChars ∧
      (Settings.ofEnvironment env).version = (Settings.ofEnvironment other).version := by
  have hother (name : String) (hn : name ∉ Plan.inputKeys) : env.get? name = other.get? name :=
    h name fun he => hn (he ▸ hk)
  have hretries := hother "HTTP_MAX_RETRIES" (by decide)
  have hdelay := hother "HTTP_RETRY_BASE_DELAY" (by decide)
  have htimeout := hother "HTTP_CLIENT_TIMEOUT" (by decide)
  have hchars := hother "supportedDtmfChars" (by decide)
  have hversion := hother "LAMBDA_VERSION" (by decide)
  refine ⟨?_, ?_, ?_⟩
  · simp only [Settings.ofEnvironment, RetrySettings.ofEnvironment, hretries, hdelay, htimeout]
  · simp only [Settings.ofEnvironment, hchars]
  · simp only [Settings.ofEnvironment, hversion]

namespace Gateway

variable {key : String} {env otherEnv : Environment} {event otherEvent : Event}

/-- All other inputs are the same. -/
theorem input?_eq (henv : env.SameBut key otherEnv) (hevent : event.SameBut key otherEvent)
    {name : String} (hn : name ≠ key) :
    Plan.input? env event name = Plan.input? otherEnv otherEvent name := by
  rw [Plan.input?, Plan.input?, hevent.parameter? hn, henv name hn]

/-- The backend is not told of a parameter that is an input. -/
theorem request_congr {settings otherSettings : Settings} (hk : key ∈ Plan.inputKeys)
    (hchars : settings.supportedDtmfChars = otherSettings.supportedDtmfChars)
    (hversion : settings.version = otherSettings.version) (hevent : event.SameBut key otherEvent)
    (plan : Plan) (action : Action) : (transfer settings event plan).request action =
      (transfer otherSettings otherEvent plan).request action := by
  have hforwarded : Transfer.forwarded event.parameters =
      Transfer.forwarded otherEvent.parameters := by
    rw [← Transfer.forwarded_erase (Plan.mem_ownKeys hk), hevent.parameters,
      Transfer.forwarded_erase (Plan.mem_ownKeys hk)]
  cases action with
  | pstnTransfer =>
    simp only [Transfer.request, Transfer.url, Transfer.payload, Transfer.metadata, transfer,
      Event.contactId, hchars, hversion, hevent.contact, hforwarded]
  | handoff =>
    simp only [Transfer.request, Transfer.url, Transfer.payload, transfer, Event.contactId,
      hevent.contact]

/-- The backend is not told of an input, be it a variable or a parameter. -/
theorem request_eq (hk : key ∈ Plan.inputKeys) (henv : env.SameBut key otherEnv)
    (hevent : event.SameBut key otherEvent) (plan : Plan) (action : Action) :
    (transfer (.ofEnvironment env) event plan).request action =
      (transfer (.ofEnvironment otherEnv) otherEvent plan).request action := by
  obtain ⟨-, hchars, hversion⟩ := henv.settings hk
  exact request_congr hk hchars hversion hevent plan action

/-- An invocation goes by its inputs, and not by where they come from. -/
theorem handle_congr (hk : key ∈ Plan.inputKeys) (henv : env.SameBut key otherEnv)
    (hevent : event.SameBut key otherEvent)
    (hinput : Plan.input? env event key = Plan.input? otherEnv otherEvent key)
    (services : RetrySettings → Services σ) :
    handle (.ofEnvironment env) (services (Settings.ofEnvironment env).http) event =
      handle (.ofEnvironment otherEnv) (services (Settings.ofEnvironment otherEnv).http)
        otherEvent := by
  have hplan : Plan.make env event = Plan.make otherEnv otherEvent := by
    refine Plan.make_congr fun name _ => ?_
    by_cases hn : name = key
    · rw [hn, hinput]
    · exact input?_eq henv hevent hn
  have hhttp := (henv.settings hk).1
  unfold handle Transfer.perform
  simp only [request_eq hk henv hevent, hhttp]
  rw [show (Settings.ofEnvironment env).env = env from rfl,
    show (Settings.ofEnvironment otherEnv).env = otherEnv from rfl, hplan]
  rfl

/-- WHEREVER IT COMES FROM: an input that is a variable of the environment and the same input as a
    parameter of the event, whatever the variable of its name is then, come to the same invocation:
    the same requests, the same result and the same world behind it, in any world. -/
theorem handle_set_variable_or_parameter (hk : key ∈ Plan.inputKeys) {value : String}
    (hv : value ≠ "") (env : Environment) (hmissing : event.parameter? key = none) :
    World.handle (.ofEnvironment (env.set key value)) event =
        World.handle (.ofEnvironment env) (event.set key value) ∧
      ∀ {σ : Type} (services : RetrySettings → Services σ),
        handle (.ofEnvironment (env.set key value))
            (services (Settings.ofEnvironment (env.set key value)).http) event =
          handle (.ofEnvironment env) (services (Settings.ofEnvironment env).http)
            (event.set key value) := by
  have hinput : Plan.input? (env.set key value) event key =
      Plan.input? env (event.set key value) key := by
    rw [Plan.input?, Plan.input?, hmissing, Event.parameter?_set event key hv]
    exact env.get?_set key hv
  have hsame {σ : Type} (services : RetrySettings → Services σ) :=
    handle_congr hk (env.set_sameBut key value) (event.sameBut_set key value) hinput services
  exact ⟨hsame World.services, hsame⟩

/-- A key in the environment, or the same key in the event with another one in the environment: it
    is that key that goes out. -/
theorem handle_set_variable_or_parameter_key :
    ∃ (env : Environment) (event : Event) (w : World),
      event.parameter? "apiKey" = none ∧ env.get? "apiKey" = some "stale" ∧
        World.handle (.ofEnvironment (env.set "apiKey" "fresh")) event w =
          World.handle (.ofEnvironment env) (event.set "apiKey" "fresh") w ∧
        ((World.handle (.ofEnvironment env) (event.set "apiKey" "fresh") w).2.network.sent.map
          (·.headers)) = [[Http.jsonContent, Http.authorization "ApiKey fresh"]] := by
  let env : Environment := ⟨[("apiKey", "stale"), ("region", "us-west-2-prod"),
    ("apiDomain", "http://localhost:8080")]⟩
  let event : Event := ⟨[], [("action", "get_pstn_transfer_data"), ("apiKey", ""),
    ("flow", "sales"), ("virtualAgentName", "customers/acme/profiles/main/virtualAgents/va")], none⟩
  let w : World :=
    ⟨⟨false, [.response 200 (Text.Utf8.encode "\x7b\x7d")], []⟩, .opened 0, ⟨true, .binary, []⟩⟩
  have hmissing : event.parameter? "apiKey" = none := by decide
  have hv : "fresh" ≠ "" := by decide
  have hsame := (handle_set_variable_or_parameter (by decide) hv env hmissing).1
  exact ⟨env, event, w, hmissing, by decide, congrFun hsame w, by decide +kernel⟩

end Gateway

end CallTransfer
