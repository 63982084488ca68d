import CallTransfer.Action
import CallTransfer.AgentName
import CallTransfer.Check
import CallTransfer.Domain
import CallTransfer.Event
import CallTransfer.Failure
import CallTransfer.Region
import CallTransfer.Settings.Environment

/-!
    What an invocation is going to do, as far as its event and the environment tell. Every input is
    a parameter of the event or, if that is missing or empty, the environment variable of the same
    name. The FIRST fault counts, in the order in which the inputs are looked at here; only the
    credentials behind a secret's resource name are left to be fetched.
-/

namespace CallTransfer

/-- All inputs of an invocation, checked. -/
structure Plan where
  region : String
  domain : String
  authDomain : Option String
  action : Action
  agent : AgentName
  secretArn : Option String
  clientId : Option String
  clientSecret : Option String
  apiKey : Option String

namespace Plan

/-- An input. -/
def input? (env : Environment) (event : Event) (key : String) : Option String :=
  (event.parameter? key).orElse fun _ => env.get? key

/-- An input that must be there. -/
def required (env : Environment) (event : Event) (key : String) : Except Failure String :=
  match input? env event key with
  | some text => .ok text
  | none => .error (.validation (key ++ " is required"))

/-- Whether the inputs call for tokens. -/
def wantsTokens (env : Environment) (event : Event) : Bool :=
  (input? env event "oauthSecretArn").isSome ||
    ((input? env event "oauthClientId").isSome && (input? env event "oauthClientSecret").isSome)

/-- The endpoints of the API and of tokens, as far as they are given. With tokens, neither may come
    without the other. -/
def givenDomains (env : Environment) (event : Event) :
    Except Failure (Option String × Option String) :=
  let api := input? env event "apiDomain"
  let auth := input? env event "authDomain"
  if wantsTokens env event && api.isSome != auth.isSome then
    .error (.validation "apiDomain and authDomain must be provided together")
  else .ok (api, auth)

/-- The region: given, or else named by the endpoint that is given. -/
def chosenRegion (env : Environment) (event : Event) (api : Option String) :
    Except Failure String :=
  match input? env event "region", api with
  | some region, _ => .ok region
  | none, none => .error (.validation "region is required")
  | none, some domain =>
    match Region.ofDomain? domain with
    | some region => .ok region
    | none => .error (.validation ("could not extract region from apiDomain: " ++
        (Failure.validation (Region.noneInDomain domain)).message))

/-- The API endpoint of a region. -/
def regionDomain (region : String) : Except Failure String :=
  match Region.apiDomain? region with
  | some domain => .ok domain
  | none => .error (.validation (Region.invalidName region))

/-- An endpoint that has been checked; `called` is what it is called when it is at fault. -/
def checkedDomain (called domain : String) : Except Failure String :=
  match Domain.parse domain with
  | .ok _ => .ok domain
  | .error fault =>
    .error (.validation ("invalid " ++ called ++ ": " ++
      (Failure.validation fault.message).message))

/-- The API endpoint: given, or else that of the region. -/
def chosenDomain (region : String) (api : Option String) : Except Failure String := do
  checkedDomain "domain" (← api.elim (regionDomain region) fun domain =>
    .ok (Domain.withScheme domain))

/-- The token endpoint, if one is given. -/
def chosenAuthDomain : Option String → Except Failure (Option String)
  | none => .ok none
  | some domain => (checkedDomain "authDomain" (Domain.withScheme domain)).map some

/-- The action that is asked for. -/
def chosenAction (name : String) : Except Failure Action :=
  match Action.ofName? name with
  | some action => .ok action
  | none => .error (.validation (Action.unknown name))

/-- The virtual agent that is asked about. -/
def chosenAgent (name : String) : Except Failure AgentName :=
  match AgentName.parse name with
  | .ok agent => .ok agent
  | .error fault => .error (.validation fault.message)

/-- The plan of an invocation. -/
def make (env : Environment) (event : Event) : Except Failure Plan := do
  let (api, auth) ← givenDomains env event
  let region ← chosenRegion env event api
  let domain ← chosenDomain region api
  let authDomain ← chosenAuthDomain auth
  let action ← chosenAction (← required env event "action")
  let agent ← chosenAgent (← required env event "virtualAgentName")
  return {
    region, domain, authDomain, action, agent
    secretArn := input? env event "oauthSecretArn"
    clientId := input? env event "oauthClientId"
    clientSecret := input? env event "oauthClientSecret"
    apiKey := input? env event "apiKey" }

/-! ### What a plan has been checked for -/

/-- No input is empty. -/
theorem ne_empty_of_input? {env : Environment} {event : Event} {key text : String}
    (h : input? env event key = some text) : text ≠ "" := by
  unfold input? at h
  cases hp : event.parameter? key with
  | some given =>
    rw [hp] at h
    cases h
    exact of_decide_eq_true (Option.filter_eq_some_iff.mp hp).2
  | none =>
    rw [hp] at h
    exact of_decide_eq_true (Option.filter_eq_some_iff.mp h).2

/-- Endpoints are taken as they are given. With tokens, both are given or neither is. -/
theorem givenDomains_eq_ok_iff {env : Environment} {event : Event}
    {given : Option String × Option String} :
    givenDomains env event = .ok given ↔
      given = (input? env event "apiDomain", input? env event "authDomain") ∧
        (wantsTokens env event = true →
          (input? env event "apiDomain").isSome = (input? env event "authDomain").isSome) := by
  unfold givenDomains
  simp only
  split
  · rename_i h
    obtain ⟨hw, hn⟩ := Bool.and_eq_true_iff.mp h
    exact ⟨nofun, fun ⟨_, hs⟩ => absurd (hs hw) (bne_iff_ne.mp hn)⟩
  · rename_i h
    constructor
    · rintro ⟨⟩
      refine ⟨rfl, fun hw => ?_⟩
      rw [hw, Bool.true_and] at h
      exact Decidable.not_not.mp (mt bne_iff_ne.mpr h)
    · rintro ⟨rfl, -⟩
      rfl

/-- An endpoint that passes is the text that was checked, and that holds an origin. -/
theorem checkedDomain_eq_ok_iff {called domain checked : String} :
    checkedDomain called domain = .ok checked ↔
      checked = domain ∧ ∃ url, Domain.parse domain = .ok url := by
  unfold checkedDomain
  cases Domain.parse domain with
  | ok url => exact ⟨fun h => ⟨(Except.ok.inj h).symm, url, rfl⟩, fun ⟨h, _⟩ => h ▸ rfl⟩
  | error fault => exact ⟨nofun, fun ⟨_, _, h⟩ => nomatch h⟩

/-- The endpoint of a region is one that the region's name makes. -/
theorem regionDomain_eq_ok_iff {region domain : String} :
    regionDomain region = .ok domain ↔ Region.apiDomain? region = some domain := by
  unfold regionDomain
  cases Region.apiDomain? region with
  | some made =>
    exact ⟨fun h => congrArg _ (Except.ok.inj h), fun h => congrArg _ (Option.some.inj h)⟩
  | none => exact ⟨nofun, nofun⟩

/-- An API endpoint that is given gets a scheme. -/
theorem chosenDomain_some_eq_ok_iff {region given domain : String} :
    chosenDomain region (some given) = .ok domain ↔
      domain = Domain.withScheme given ∧ ∃ url, Domain.parse domain = .ok url := by
  rw [chosenDomain, Check.bind_eq_ok_iff]
  constructor
  · rintro ⟨_, ⟨⟩, h⟩
    obtain ⟨rfl, hu⟩ := checkedDomain_eq_ok_iff.mp h
    exact ⟨rfl, hu⟩
  · rintro ⟨rfl, hu⟩
    exact ⟨_, rfl, checkedDomain_eq_ok_iff.mpr ⟨rfl, hu⟩⟩

/-- An API endpoint that is not given is that of the region, which is checked like any other. -/
theorem chosenDomain_none_eq_ok_iff {region domain : String} :
    chosenDomain region none = .ok domain ↔
      Region.apiDomain? region = some domain ∧ ∃ url, Domain.parse domain = .ok url := by
  rw [chosenDomain, Check.bind_eq_ok_iff]
  constructor
  · rintro ⟨made, hr, h⟩
    obtain ⟨rfl, hu⟩ := checkedDomain_eq_ok_iff.mp h
    exact ⟨regionDomain_eq_ok_iff.mp hr, hu⟩
  · rintro ⟨hr, hu⟩
    exact ⟨domain, regionDomain_eq_ok_iff.mpr hr, checkedDomain_eq_ok_iff.mpr ⟨rfl, hu⟩⟩

/-- A token endpoint that is given gets a scheme and is checked; there need not be one. -/
theorem chosenAuthDomain_eq_ok_iff {given chosen : Option String} :
    chosenAuthDomain given = .ok chosen ↔
      chosen = given.map Domain.withScheme ∧
        ∀ domain, chosen = some domain → ∃ url, Domain.parse domain = .ok url := by
  cases given with
  | none =>
    constructor
    · rintro ⟨⟩
      exact ⟨rfl, nofun⟩
    · rintro ⟨rfl, -⟩
      rfl
  | some given =>
    rw [chosenAuthDomain, Check.map_eq_ok_iff]
    constructor
    · rintro ⟨domain, h, rfl⟩
      obtain ⟨rfl, hu⟩ := checkedDomain_eq_ok_iff.mp h
      refine ⟨rfl, ?_⟩
      rintro _ ⟨⟩
      exact hu
    · rintro ⟨rfl, hu⟩
      exact ⟨_, checkedDomain_eq_ok_iff.mpr ⟨rfl, hu _ rfl⟩, rfl⟩

/-- A plan that has been made of the inputs: every field is an input or what an input was checked
    to be. -/
structure IsMade (env : Environment) (event : Event) (plan : Plan) : Prop where
  paired : wantsTokens env event = true →
    (input? env event "apiDomain").isSome = (input? env event "authDomain").isSome
  region : chosenRegion env event (input? env event "apiDomain") = .ok plan.region
  domain : chosenDomain plan.region (input? env event "apiDomain") = .ok plan.domain
  authDomain : chosenAuthDomain (input? env event "authDomain") = .ok plan.authDomain
  action : (required env event "action" >>= chosenAction) = .ok plan.action
  agent : (required env event "virtualAgentName" >>= chosenAgent) = .ok plan.agent
  secretArn : plan.secretArn = input? env event "oauthSecretArn"
  clientId : plan.clientId = input? env event "oauthClientId"
  clientSecret : plan.clientSecret = input? env event "oauthClientSecret"
  apiKey : plan.apiKey = input? env event "apiKey"

/-- Making a plan gives the one that is made of the inputs. -/
theorem make_eq_ok_iff {env : Environment} {event : Event} {plan : Plan} :
    make env event = .ok plan ↔ IsMade env event plan := by
  simp only [make, Check.bind_eq_ok_iff]
  constructor
  · rintro ⟨_, hg, region, hr, domain, hd, authDomain, ha, _, hn, action, hc, _, hm, agent, hv, ⟨⟩⟩
    obtain ⟨rfl, hp⟩ := givenDomains_eq_ok_iff.mp hg
    exact ⟨hp, hr, hd, ha, Check.bind_eq_ok_iff.mpr ⟨_, hn, hc⟩,
      Check.bind_eq_ok_iff.mpr ⟨_, hm, hv⟩, rfl, rfl, rfl, rfl⟩
  · rintro ⟨hp, hr, hd, ha, hc, hv, h1, h2, h3, h4⟩
    obtain ⟨name, hn, hc⟩ := Check.bind_eq_ok_iff.mp hc
    obtain ⟨text, hm, hv⟩ := Check.bind_eq_ok_iff.mp hv
    refine ⟨_, givenDomains_eq_ok_iff.mpr ⟨rfl, hp⟩, _, hr, _, hd, _, ha, name, hn, _, hc, text, hm,
      _, hv, ?_⟩
    cases plan
    simp only at h1 h2 h3 h4
    subst h1 h2 h3 h4
    rfl

/-- Without an endpoint of the API the region must be given. -/
theorem input?_of_chosenRegion {env : Environment} {event : Event} {region : String}
    (h : chosenRegion env event none = .ok region) : input? env event "region" = some region := by
  unfold chosenRegion at h
  cases hi : input? env event "region" with
  | none => rw [hi] at h; cases h
  | some given => rw [hi] at h; cases h; rfl

end Plan

end CallTransfer
