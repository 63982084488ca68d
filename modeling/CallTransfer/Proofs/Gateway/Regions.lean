import CallTransfer.Proofs.Gateway.Inputs
import CallTransfer.Proofs.Url.Spelling

/-!
    The SPELLING of regions. The API endpoint of a region is made of its lower case, while its token
    endpoint is looked up and made of the region as it is written. Reading the URL lowers the case
    of that one, too; but a region whose tokens another one issues is found only if it is written in
    small letters, so that its other spellings lead to an endpoint of its own.
-/

namespace CallTransfer

open Idna (isWord toAscii?)
open Text (lower lowerChar)
open Url (between isHostChar)

/-! ### Names of regions -/

namespace Region

variable {region other : String}

/-- Whether a region, as it is written, has its tokens issued by another one. -/
def isReissued (region : String) : Bool := (tokenIssuers.lookup region).isSome

theorem lookup_tokenIssuers (region : String) : tokenIssuers.lookup region =
    if region = "chat-prod" ∨ region = "voice-prod" then some "us-west-2-prod" else none := by
  have hc : (region == "chat-prod") = decide (region = "chat-prod") := rfl
  have hv : (region == "voice-prod") = decide (region = "voice-prod") := rfl
  rw [tokenIssuers, List.lookup_cons, List.lookup_cons, List.lookup_nil, hc, hv]
  by_cases hchat : region = "chat-prod"
  · simp [hchat]
  · by_cases hvoice : region = "voice-prod"
    · simp [hvoice]
    · simp [hchat, hvoice]

theorem isReissued_iff :
    isReissued region = true ↔ region = "chat-prod" ∨ region = "voice-prod" := by
  rw [isReissued, lookup_tokenIssuers]
  split <;> simp_all

theorem tokenIssuer_eq (region : String) :
    tokenIssuer region = if isReissued region then "us-west-2-prod" else region := by
  rw [tokenIssuer, isReissued, lookup_tokenIssuers]
  split <;> rfl

/-- Names are in ASCII. -/
theorem le_of_isNameChar {c : Char} (h : isNameChar c = true) : c.toNat ≤ 0x7F := by
  simp only [isNameChar, Bool.or_eq_true, Bool.and_eq_true, decide_eq_true_eq, beq_iff_eq,
    Char.le_def, UInt32.le_iff_toNat_le] at h
  have hends : 'z'.val.toNat = 122 ∧ '9'.val.toNat = 57 := ⟨rfl, rfl⟩
  have hv : c.toNat = c.val.toNat := rfl
  rcases h with (h | h) | rfl
  · omega
  · omega
  · decide

/-- Names are in small letters. -/
theorem isUpper_of_isNameChar {c : Char} (h : isNameChar c = true) : c.isUpper = false :=
  Text.of_forall_lt (p := fun c => isNameChar c = true → c.isUpper = false) (by decide)
    (Nat.lt_succ_of_le (le_of_isNameChar h)) h

/-- What is in a name when its case is lowered stands for itself in a host. -/
theorem isHostChar_of_lowerChar {c : Char} (h : isNameChar (lowerChar c) = true) :
    isHostChar c = true := by
  by_cases hk : c = '\u212A'
  · rw [hk]
    decide
  · have hc : c.toNat < 0x80 := by
      refine Nat.lt_of_not_le fun hl => ?_
      rw [lowerChar, if_neg hk, Idna.toLower_of_isUpper (Idna.isUpper_of_lt (by omega))] at h
      have := le_of_isNameChar h
      omega
    exact Text.of_forall_lt (p := fun c => isNameChar (lowerChar c) = true → isHostChar c = true)
      (by decide) hc h

theorem isLowAscii_of_forall {s : List Char} (h : ∀ c ∈ s, isNameChar c = true) :
    Idna.IsLowAscii s :=
  fun c hc => ⟨le_of_isNameChar (h c hc), isUpper_of_isNameChar (h c hc)⟩

theorem forall_of_isName {s : List Char} (h : isName s = true) : ∀ c ∈ s, isNameChar c = true :=
  List.all_eq_true.mp (Bool.and_eq_true_iff.mp h).2

/-- A name is in small letters. -/
theorem lower_of_isName {s : List Char} (h : isName s = true) : lower s = s :=
  (isLowAscii_of_forall (forall_of_isName h)).lower_eq

/-- A name is written out, so that it stands for itself in a host. -/
theorem isHostChar_of_isName {s : List Char} (h : isName s = true) :
    ∀ c ∈ s, isHostChar c = true := by
  have hlower : ∀ c ∈ lower s, isNameChar c = true := (lower_of_isName h).symm ▸ forall_of_isName h
  exact fun c hc => isHostChar_of_lowerChar (hlower _ (List.mem_map_of_mem hc))

/-- A name without a code in front stands for itself among hosts. -/
theorem toAscii?_eq_self {s : List Char} (h : ∀ c ∈ s, isNameChar c = true)
    (he : Idna.encodedStart.isPrefixOf s = false) : toAscii? s = some s := by
  have hlow := isLowAscii_of_forall h
  have hdot : '.' ∉ s := fun hm => absurd (h _ hm) (by decide)
  have hencoded : Idna.hasEncodedLabel (lower s) = false := by
    rw [hlow.lower_eq, Idna.hasEncodedLabel, Text.fields_of_not_mem hdot]
    simpa using he
  have hink : ¬ s.any Idna.isForbidden = true := by
    rw [Bool.not_eq_true]
    refine List.any_eq_false.mpr fun c hc => ?_
    rw [Bool.not_eq_true]
    exact Text.of_forall_lt (p := fun c => isNameChar c = true → Idna.isForbidden c = false)
      (by decide) (Nat.lt_succ_of_le (le_of_isNameChar (h c hc))) (h c hc)
  rw [Idna.toAscii?_eq_lower hlow.lowerChar_le hencoded, hlow.lower_eq, if_neg hink]

/-! ### Endpoints of regions -/

/-- A region that has an endpoint: each of its characters in lower case is one of a name. -/
theorem forall_of_apiDomain? {domain : String} (h : apiDomain? region = some domain) :
    ∀ c ∈ region.toList, isNameChar (lowerChar c) = true := by
  intro c hc
  have hname := (apiDomain?_eq_some_iff.mp h).1
  rw [isName, Bool.and_eq_true, List.all_eq_true] at hname
  exact hname.2 _ (List.mem_map_of_mem hc)

/-- The host where tokens of a region are issued, by what its name means in a host. -/
def tokenHost (ascii : List Char) : Url.Host :=
  .name (between "auth".toList "cresta".toList "ai".toList ascii)

/-- The URL at which tokens of a region are asked for. -/
def tokenUrl (ascii : List Char) : Url where
  scheme := "https".toList
  authority := some ⟨[], [], tokenHost ascii, none⟩
  path := .segments ["v1".toList, "oauth".toList, "regionalToken".toList]
  query := none
  fragment := none

/-- Words that hosts of services are called by. -/
theorem isWord_auth : isWord "auth".toList = true ∧ isWord "api".toList = true ∧
    isWord "cresta".toList = true ∧ isWord "ai".toList = true ∧ isWord "com".toList = true := by
  decide

theorem toList_tokenDomain (region : String) : (tokenDomain region).toList = "https://".toList ++
    between "auth".toList "cresta".toList "ai".toList (tokenIssuer region).toList := by
  have hfront : "https://auth.".toList = "https://".toList ++ "auth".toList ++ ['.'] := by decide
  have hbehind : ".cresta.ai".toList = '.' :: "cresta".toList ++ '.' :: "ai".toList := by decide
  unfold tokenDomain between
  rw [String.toList_append, String.toList_append, hfront, hbehind]
  simp only [List.append_assoc, List.cons_append, List.nil_append]

theorem tokenDomain_ne_empty (region : String) : tokenDomain region ≠ "" := by
  intro h
  have ht := congrArg String.toList h
  rw [toList_tokenDomain] at ht
  exact absurd (List.append_eq_nil_iff.mp ht).1 (by decide)

/-- The URL at which tokens are asked for is made of what the issuer's name means in a host. -/
theorem parse_tokenRequest (h : ∀ c ∈ (tokenIssuer region).toList, isNameChar (lowerChar c) = true)
    (client : Credentials) : Url.parse (TokenExchange.request (tokenDomain region) client).url =
      match toAscii? (lower (tokenIssuer region).toList) with
      | some ascii => .ok (tokenUrl ascii)
      | none => .error .domainName := by
  obtain ⟨hservice, -, hcompany, htld, -⟩ := isWord_auth
  have hchars : ∀ c ∈ (tokenIssuer region).toList, isHostChar c = true :=
    fun c hc => isHostChar_of_lowerChar (h c hc)
  have hascii : ∀ c ∈ (tokenIssuer region).toList, (lowerChar c).toNat ≤ 0x7F :=
    fun c hc => le_of_isNameChar (h c hc)
  have hhost := Url.isHostChar_between hservice hcompany htld hchars
  have hn := Url.between_ne_nil "auth".toList "cresta".toList "ai".toList
    (tokenIssuer region).toList
  have hbare : Domain.bare (tokenDomain region) = tokenDomain region :=
    Url.bare_of_isPlainOrigin (Url.splitScheme?_https (toList_tokenDomain region))
      (fun c hc => (Url.isHostChar_iff.mp (hhost c hc)).1) hn
  have hpath : TokenExchange.path.toList = '/' :: "v1/oauth/regionalToken".toList := by decide
  have ht : (TokenExchange.request (tokenDomain region) client).url.toList =
      "https://".toList ++ (between "auth".toList "cresta".toList "ai".toList
        (tokenIssuer region).toList ++ '/' :: "v1/oauth/regionalToken".toList) := by
    rw [← List.append_assoc, ← toList_tokenDomain, ← hpath, ← String.toList_append]
    exact congrArg (fun domain => (domain ++ TokenExchange.path).toList) hbare
  rw [Url.parse_of_isHostChar (Url.splitScheme?_https ht) (by decide +kernel) hhost hn
    (Text.forall_of_all (by decide)) (Text.forall_of_all (by decide)),
    Url.Host.ofSpecial_between hservice hcompany htld hchars hascii,
    Idna.toAscii?_lower hascii]
  cases toAscii? (tokenIssuer region).toList <;> rfl

/-- What stands behind a region's name in its API host. -/
def ending (name : List Char) : List Char :=
  if isProduction name then ".cresta.com".toList else ".cresta.ai".toList

/-- The API host of a region. -/
def apiHost (name : List Char) : List Char := "api.".toList ++ name ++ ending name

/-- The endpoint of a region is the API host of its name in small letters, behind a scheme. -/
theorem toList_apiDomain {domain : String} (h : apiDomain? region = some domain) :
    domain.toList = "https://".toList ++ apiHost (lower region.toList) := by
  obtain ⟨-, rfl⟩ := apiDomain?_eq_some_iff.mp h
  have hname : (String.ofList (lower region.toList)).toList = lower region.toList :=
    String.toList_ofList
  have hfront : "https://api.".toList = "https://".toList ++ "api.".toList := by decide
  rw [String.toList_append, String.toList_append, hname, hfront, apiHost, ending]
  split <;> simp only [List.append_assoc]

theorem ending_eq (name : List Char) :
    ∃ tld ∈ ["ai".toList, "com".toList], ending name = ".cresta.".toList ++ tld := by
  unfold ending
  split
  · exact ⟨"com".toList, by decide, by decide⟩
  · exact ⟨"ai".toList, by decide, by decide⟩

/-- The API host of a region is its name between words. -/
theorem apiHost_eq_between (name : List Char) :
    ∃ tld, isWord tld = true ∧ apiHost name = between "api".toList "cresta".toList tld name := by
  obtain ⟨tld, ht, he⟩ := ending_eq name
  have hword : ∀ tld ∈ ["ai".toList, "com".toList], isWord tld = true := by decide
  have hdot : "api.".toList = "api".toList ++ ['.'] := by decide
  have hcresta : ".cresta.".toList = '.' :: "cresta".toList ++ ['.'] := by decide
  refine ⟨tld, hword tld ht, ?_⟩
  rw [apiHost, he, hdot, hcresta, between]
  simp only [List.append_assoc, List.cons_append, List.nil_append]

/-- The host of a region's API endpoint is made of what the region's name means in a host, so that
    it does mean something there. -/
theorem exists_ascii_of_apiDomain? {domain : String} {base : Url}
    (h : apiDomain? region = some domain) (hd : Domain.parse domain = .ok base) :
    ∃ ascii tld, toAscii? (lower region.toList) = some ascii ∧
      base.host? = some (.name (between "api".toList "cresta".toList tld ascii)) := by
  obtain ⟨-, hservice, hcompany, -⟩ := isWord_auth
  obtain ⟨tld, htld, hb⟩ := apiHost_eq_between (lower region.toList)
  have ht := toList_apiDomain h
  rw [hb] at ht
  have hname := (apiDomain?_eq_some_iff.mp h).1
  have hlow := isLowAscii_of_forall (forall_of_isName hname)
  have hchars := isHostChar_of_isName hname
  have hhost := Url.isHostChar_between hservice hcompany htld hchars
  have hplace := fun c hc => (Url.isHostChar_iff.mp (hhost c hc)).1
  have hn := Url.between_ne_nil "api".toList "cresta".toList tld (lower region.toList)
  have hscheme := Url.splitScheme?_https ht
  have hbare : Domain.bare domain = domain := Url.bare_of_isPlainOrigin hscheme hplace hn
  obtain ⟨-, authority, hbase, ha⟩ := Url.authority_of_bare (hbare.symm ▸ hscheme)
    (fun c hc => (Url.not_blank_of_isPlaceChar (hplace c hc)).1)
    (fun c hc => Url.isSlash_of_isPlaceChar (hplace c hc)) hd
  rw [Url.readAuthority_of_isHostChar hhost hn,
    Url.Host.ofSpecial_between hservice hcompany htld hchars hlow.lowerChar_le] at ha
  cases hascii : toAscii? (lower region.toList) with
  | none =>
    rw [hascii] at ha
    cases ha
  | some ascii =>
    rw [hascii] at ha
    cases ha
    exact ⟨ascii, tld, rfl, by rw [Url.host?, hbase]; rfl⟩

/-- What the issuer of a region's tokens is called in a host, if the region itself is called so:
    the issuer counts if the region is written as it is looked up. -/
def issuerName (region : String) (ascii : List Char) : List Char :=
  if isReissued region then "us-west-2-prod".toList else ascii

/-- The URL at which tokens of a region with an endpoint are asked for. -/
theorem parse_tokenRequest_of_ascii {domain : String} {ascii : List Char}
    (h : apiDomain? region = some domain) (ha : toAscii? (lower region.toList) = some ascii)
    (client : Credentials) : Url.parse (TokenExchange.request (tokenDomain region) client).url =
      .ok (tokenUrl (issuerName region ascii)) := by
  cases hr : isReissued region with
  | false =>
    have hi : tokenIssuer region = region := by rw [tokenIssuer_eq, hr]; rfl
    rw [parse_tokenRequest (hi.symm ▸ forall_of_apiDomain? h), hi, ha, issuerName, hr]
    rfl
  | true =>
    have hi : tokenIssuer region = "us-west-2-prod" := by rw [tokenIssuer_eq, hr]; rfl
    have hlower : lower "us-west-2-prod".toList = "us-west-2-prod".toList := by decide
    have hwest : toAscii? (lower "us-west-2-prod".toList) = some "us-west-2-prod".toList := by
      rw [hlower]
      exact toAscii?_eq_self (Text.forall_of_all (by decide)) (by decide)
    rw [parse_tokenRequest (hi.symm ▸ Text.forall_of_all (by decide)), hi, hwest, issuerName, hr]
    rfl

/-- Spellings of one region have their tokens issued at the same host if both of them are found, or
    neither is. -/
theorem tokenHost_eq_iff {ascii : List Char} (ha : toAscii? (lower region.toList) = some ascii)
    (hl : lower other.toList = lower region.toList) :
    tokenHost (issuerName other ascii) = tokenHost (issuerName region ascii) ↔
      isReissued other = isReissued region := by
  -- what is looked up is written in small letters, so that it means itself
  have hforeign {spelling : String} (hs : lower spelling.toList = lower region.toList)
      (hr : isReissued spelling = true) : tokenHost "us-west-2-prod".toList ≠ tokenHost ascii := by
    rw [← hs] at ha
    rcases isReissued_iff.mp hr with rfl | rfl
    · have hchat : lower "chat-prod".toList = "chat-prod".toList := by decide
      rw [hchat, toAscii?_eq_self (Text.forall_of_all (by decide)) (by decide)] at ha
      cases ha
      decide
    · have hvoice : lower "voice-prod".toList = "voice-prod".toList := by decide
      rw [hvoice, toAscii?_eq_self (Text.forall_of_all (by decide)) (by decide)] at ha
      cases ha
      decide
  unfold issuerName
  cases hr : isReissued region <;> cases ho : isReissued other
  · exact iff_of_true rfl rfl
  · exact iff_of_false (hforeign hl ho) nofun
  · exact iff_of_false (hforeign rfl hr).symm nofun
  · exact iff_of_true rfl rfl

/-- A name without a label in ASCII form means itself. -/
theorem ascii_of_apiDomain? {domain : String} {ascii : List Char}
    (h : apiDomain? region = some domain) (ha : toAscii? (lower region.toList) = some ascii)
    (he : Idna.encodedStart.isPrefixOf (lower region.toList) = false) :
    ascii = lower region.toList := by
  have hname := forall_of_isName (apiDomain?_eq_some_iff.mp h).1
  exact Option.some.inj (ha.symm.trans (toAscii?_eq_self hname he))

/-- Spellings of one region have one API endpoint. -/
theorem apiDomain?_congr (hl : lower other.toList = lower region.toList) :
    apiDomain? other = apiDomain? region := by
  unfold apiDomain?
  rw [hl]

end Region

/-! ### Requests by their URLs -/

/-- Whether attempts go by the URL as it is read, and not by its text. -/
def GoesByUrl (attempt : Url → Http.Request → Act σ Http.Outcome) : Prop :=
  ∀ url request text, attempt url { request with url := text } = attempt url request

theorem World.goesByUrl_attempt : GoesByUrl World.attempt := fun _ _ _ => rfl

/-- Services that all work over one network. -/
def Services.over (attempt : Url → Http.Request → Act σ Http.Outcome) (get : σ → TokenDesk)
    (set : TokenDesk → σ → σ) (retrieve : String → Act σ Credentials)
    (settings : RetrySettings) : Services σ where
  attempt := attempt
  issue := TokenExchange.issue (Http.fetch settings attempt none) get set
  retrieve := retrieve

theorem World.handle_eq_over (settings : Settings) (event : Event) :
    World.handle settings event = Gateway.handle settings (.over World.attempt World.desk
      (fun desk w => { w with desk }) World.retrieve settings.http) event := rfl

section Respelled
variable {attempt : Url → Http.Request → Act σ Http.Outcome} {settings : RetrySettings}

/-- Requests for one URL are answered alike. -/
theorem Http.fetch_congr (hgo : GoesByUrl attempt) {request : Http.Request} {text : String}
    {url : Url} (hu : Url.parse request.url = .ok url) (ht : Url.parse text = .ok url) :
    Http.fetch settings attempt none { request with url := text } =
      Http.fetch settings attempt none request := by
  have hsame : attempt url { request with url := text } = attempt url request :=
    hgo url request text
  unfold Http.fetch
  simp only [hu, ht, Act.ofExcept, Http.authorized, pure_bind]
  rw [hsame]

/-- A token is issued alike wherever it is asked for at one URL. -/
theorem TokenExchange.issue_congr (hgo : GoesByUrl attempt) {get : σ → TokenDesk}
    {set : TokenDesk → σ → σ} {domain other : String} {client : Credentials} {url : Url}
    (hu : Url.parse (request domain client).url = .ok url)
    (ho : Url.parse (request other client).url = .ok url) :
    issue (Http.fetch settings attempt none) get set other client =
      issue (Http.fetch settings attempt none) get set domain client := by
  have hrequest : request other client =
      { request domain client with url := (request other client).url } := rfl
  have hfetch : Http.fetch settings attempt none (request other client) =
      Http.fetch settings attempt none (request domain client) := by
    rw [hrequest]
    exact Http.fetch_congr hgo hu ho
  unfold issue ask
  rw [hfetch]

end Respelled

namespace Gateway

/-- What is done with a mode is the same for plans that differ in their regions, if it is the same
    wherever tokens are issued. -/
theorem auth_bind_congr {retrieve : String → Act σ Credentials} {plan : Plan} {region : String}
    {next other : Auth → Act σ α}
    (htoken : ∀ client, other (.oauth2 (authDomain { plan with region }) client) =
      next (.oauth2 (authDomain plan) client))
    (hkey : ∀ key, other (.apiKey key) = next (.apiKey key)) :
    auth retrieve { plan with region } >>= other = auth retrieve plan >>= next := by
  have hclient : client retrieve { plan with region } = client retrieve plan := rfl
  unfold auth
  rw [hclient, bind_assoc, bind_assoc]
  refine bind_congr fun c => ?_
  unfold Auth.ofKnown?
  by_cases hknown : c.id ≠ "" ∧ c.secret ≠ ""
  · simp only [if_pos hknown, pure_bind, htoken]
  · by_cases hk : plan.apiKey.getD "" ≠ ""
    · simp only [if_neg hknown, if_pos hk, pure_bind, hkey]
    · simp only [if_neg hknown, if_neg hk]
      rfl

/-- A plan with its region in another spelling is the one that is made of that spelling, if no
    endpoint of the API is given. -/
theorem isMade_respelled {env otherEnv : Environment} {event otherEvent : Event} {plan : Plan}
    {region : String} (henv : env.SameBut "region" otherEnv)
    (hevent : event.SameBut "region" otherEvent) (hm : Plan.IsMade env event plan)
    (hapi : Plan.input? env event "apiDomain" = none)
    (hr : Plan.input? otherEnv otherEvent "region" = some region)
    (hl : lower region.toList = lower plan.region.toList) :
    Plan.IsMade otherEnv otherEvent { plan with region } := by
  have hsame (name : String) (hn : name ≠ "region") :
      Plan.input? env event name = Plan.input? otherEnv otherEvent name :=
    input?_eq henv hevent hn
  have hwants : Plan.wantsTokens env event = Plan.wantsTokens otherEnv otherEvent := by
    rw [Plan.wantsTokens, Plan.wantsTokens, hsame "oauthSecretArn" (by decide),
      hsame "oauthClientId" (by decide), hsame "oauthClientSecret" (by decide)]
  have hdomain := hm.domain
  rw [hapi] at hdomain
  obtain ⟨hd, hu⟩ := Plan.chosenDomain_none_eq_ok_iff.mp hdomain
  have hother := hsame "apiDomain" (by decide)
  have hauth := hsame "authDomain" (by decide)
  exact {
    paired := fun hw => by rw [← hother, ← hauth]; exact hm.paired (hwants.trans hw)
    region := by
      unfold Plan.chosenRegion
      rw [hr]
    domain := by
      rw [← hother, hapi]
      exact Plan.chosenDomain_none_eq_ok_iff.mpr ⟨(Region.apiDomain?_congr hl).trans hd, hu⟩
    authDomain := by rw [← hauth]; exact hm.authDomain
    action := by rw [← Plan.required_congr (hsame "action" (by decide))]; exact hm.action
    agent := by rw [← Plan.required_congr (hsame "virtualAgentName" (by decide))]; exact hm.agent
    secretArn := hm.secretArn.trans (hsame "oauthSecretArn" (by decide))
    clientId := hm.clientId.trans (hsame "oauthClientId" (by decide))
    clientSecret := hm.clientSecret.trans (hsame "oauthClientSecret" (by decide))
    apiKey := hm.apiKey.trans (hsame "apiKey" (by decide)) }

/-- An invocation whose tokens are asked for at the same URL goes the same way. -/
theorem handle_of_tokenUrl {settings : Settings} {otherEnv : Environment}
    {event otherEvent : Event} {plan : Plan} {region : String}
    (hm : Plan.make settings.env event = .ok plan)
    (hother : Plan.make otherEnv otherEvent = .ok { plan with region })
    (hevent : event.SameBut "region" otherEvent)
    (hurl : ∀ client, ∃ url,
      Url.parse (TokenExchange.request (authDomain plan) client).url = .ok url ∧
      Url.parse (TokenExchange.request (authDomain { plan with region }) client).url = .ok url)
    (hne : authDomain plan ≠ "" ∧ authDomain { plan with region } ≠ "")
    {attempt : Url → Http.Request → Act σ Http.Outcome} (hgo : GoesByUrl attempt)
    (get : σ → TokenDesk) (set : TokenDesk → σ → σ) (retrieve : String → Act σ Credentials) :
    handle { settings with env := otherEnv }
        (.over attempt get set retrieve settings.http) otherEvent =
      handle settings (.over attempt get set retrieve settings.http) event := by
  let other : Plan := { plan with region }
  let otherSettings : Settings := { settings with env := otherEnv }
  let call (value : Act σ String) : Act σ Answer := Transfer.perform
    (Http.fetch settings.http attempt (some value)) (transfer settings event plan) plan.action
  have hcall (value : Act σ String) : Transfer.perform
      (Http.fetch settings.http attempt (some value)) (transfer otherSettings otherEvent other)
        other.action = call value := by
    have hrequest : (transfer otherSettings otherEvent other).request other.action =
        (transfer settings event plan).request plan.action :=
      (request_congr (by decide) rfl rfl hevent plan plan.action).symm
    have hanswer : Transfer.answer ((transfer otherSettings otherEvent other).url other.action)
        other.action = Transfer.answer ((transfer settings event plan).url plan.action)
          plan.action := rfl
    simp only [call]
    rw [Transfer.perform, Transfer.perform, hrequest, hanswer]
  have htoken (client : Credentials) :
      (Auth.oauth2 (authDomain other) client).header
          (TokenExchange.issue (Http.fetch settings.http attempt none) get set) =
        (Auth.oauth2 (authDomain plan) client).header
          (TokenExchange.issue (Http.fetch settings.http attempt none) get set) := by
    obtain ⟨url, hu, ho⟩ := hurl client
    have hn : authDomain other ≠ "" := hne.2
    rw [Auth.header, Auth.header, if_neg hn, if_neg hne.1, TokenExchange.issue_congr hgo hu ho]
  unfold handle
  rw [hm, hother]
  simp only [Act.ofExcept, pure_bind]
  refine auth_bind_congr (fun client => ?_) fun key => hcall _
  exact (hcall _).trans (congrArg call (htoken client))

/-- AS SPELLED: where no endpoint is given, all spellings of a region have one API endpoint. Tokens
    are asked for at the host that its name in small letters makes as well, except for a spelling
    that is found among the regions whose tokens another one issues: then it is the host of that
    one. So two spellings have one token endpoint exactly if both of them are found or neither is,
    and in that case they come to the same invocation, over any network that goes by URLs. -/
theorem handle_respelled {settings : Settings} {event : Event} {plan : Plan}
    (hm : Plan.make settings.env event = .ok plan)
    (hapi : Plan.input? settings.env event "apiDomain" = none)
    (hauth : Plan.input? settings.env event "authDomain" = none) :
    ∃ ascii tld base, toAscii? (lower plan.region.toList) = some ascii ∧
      (Idna.encodedStart.isPrefixOf (lower plan.region.toList) = false →
        ascii = lower plan.region.toList) ∧
      Domain.parse plan.domain = .ok base ∧
      base.host? = some (.name (between "api".toList "cresta".toList tld ascii)) ∧
      ∀ region : String, lower region.toList = lower plan.region.toList →
        Region.apiDomain? region = some plan.domain ∧
        (∀ client, ∃ built,
          Url.parse (TokenExchange.request (authDomain { plan with region }) client).url =
              .ok built ∧
            built.host? = some (Region.tokenHost (Region.issuerName region ascii))) ∧
        (Region.tokenHost (Region.issuerName region ascii) =
            Region.tokenHost (Region.issuerName plan.region ascii) ↔
          Region.isReissued region = Region.isReissued plan.region) ∧
        ∀ otherEnv otherEvent, settings.env.SameBut "region" otherEnv →
          event.SameBut "region" otherEvent →
          Plan.input? otherEnv otherEvent "region" = some region →
            Plan.make otherEnv otherEvent = .ok { plan with region } ∧
            (Region.isReissued region = Region.isReissued plan.region →
              World.handle { settings with env := otherEnv } otherEvent =
                World.handle settings event ∧
              ∀ {σ : Type} (attempt : Url → Http.Request → Act σ Http.Outcome)
                (get : σ → TokenDesk) (set : TokenDesk → σ → σ)
                (retrieve : String → Act σ Credentials), GoesByUrl attempt →
                  handle { settings with env := otherEnv }
                      (.over attempt get set retrieve settings.http) otherEvent =
                    handle settings (.over attempt get set retrieve settings.http) event) := by
  have hmade := Plan.make_eq_ok_iff.mp hm
  have hdomain := hmade.domain
  rw [hapi] at hdomain
  obtain ⟨hd, base, hbase⟩ := Plan.chosenDomain_none_eq_ok_iff.mp hdomain
  obtain ⟨ascii, tld, ha, hhost⟩ := Region.exists_ascii_of_apiDomain? hd hbase
  have hnone : plan.authDomain = none := by
    have hchosen := hmade.authDomain
    rw [hauth] at hchosen
    exact (Except.ok.inj hchosen).symm
  have htoken (region : String) : authDomain { plan with region } = Region.tokenDomain region := by
    rw [authDomain, hnone]
    rfl
  refine ⟨ascii, tld, base, ha, Region.ascii_of_apiDomain? hd ha, hbase, hhost,
    fun region hl => ?_⟩
  have hdomain : Region.apiDomain? region = some plan.domain :=
    (Region.apiDomain?_congr hl).trans hd
  have hurl (client : Credentials) : Url.parse
      (TokenExchange.request (authDomain { plan with region }) client).url =
        .ok (Region.tokenUrl (Region.issuerName region ascii)) := by
    rw [htoken]
    exact Region.parse_tokenRequest_of_ascii hdomain (hl.symm ▸ ha) client
  refine ⟨hdomain, fun client => ⟨_, hurl client, rfl⟩, Region.tokenHost_eq_iff ha hl,
    fun otherEnv otherEvent henv hevent hr => ?_⟩
  have hother : Plan.make otherEnv otherEvent = .ok { plan with region } :=
    Plan.make_eq_ok_iff.mpr (isMade_respelled henv hevent hmade hapi hr hl)
  refine ⟨hother, fun hsame => ?_⟩
  have hsameUrl (client : Credentials) : ∃ url,
      Url.parse (TokenExchange.request (authDomain plan) client).url = .ok url ∧
      Url.parse (TokenExchange.request (authDomain { plan with region }) client).url = .ok url := by
    have hplan : authDomain plan = Region.tokenDomain plan.region := htoken plan.region
    have hname : Region.issuerName region ascii = Region.issuerName plan.region ascii := by
      rw [Region.issuerName, Region.issuerName, hsame]
    refine ⟨_, ?_, hurl client⟩
    rw [hplan, hname]
    exact Region.parse_tokenRequest_of_ascii hd ha client
  have hne : authDomain plan ≠ "" ∧ authDomain { plan with region } ≠ "" :=
    ⟨htoken plan.region ▸ Region.tokenDomain_ne_empty plan.region,
      htoken region ▸ Region.tokenDomain_ne_empty region⟩
  refine ⟨?_, fun attempt get set retrieve hgo =>
    handle_of_tokenUrl hm hother hevent hsameUrl hne hgo get set retrieve⟩
  rw [World.handle_eq_over, World.handle_eq_over]
  exact handle_of_tokenUrl hm hother hevent hsameUrl hne World.goesByUrl_attempt _ _ _

/-- A region in the environment, and another spelling of it in the event. -/
theorem handle_respelled_capitals :
    ∃ (settings : Settings) (event otherEvent : Event) (plan : Plan) (built : Url),
      Plan.make settings.env event = .ok plan ∧ plan.region = "us-west-2-prod" ∧
        Plan.make settings.env otherEvent = .ok { plan with region := "US-West-2-Prod" } ∧
        Url.parse (TokenExchange.request
          (authDomain { plan with region := "US-West-2-Prod" }) ⟨"id", "secret"⟩).url =
            .ok built ∧
        built.host? = some (.name "auth.us-west-2-prod.cresta.ai".toList) ∧
        World.handle settings otherEvent = World.handle settings event := by
  let settings : Settings := .ofEnvironment ⟨[("region", "us-west-2-prod"),
    ("oauthClientId", "id"), ("oauthClientSecret", "secret")]⟩
  let event : Event := ⟨[], [("action", "get_handoff_data"),
    ("virtualAgentName", "customers/acme/profiles/main/virtualAgents/va")], none⟩
  let plan : Plan := {
    region := "us-west-2-prod", domain := "https://api.us-west-2-prod.cresta.com"
    authDomain := none, action := .handoff, agent := ⟨"acme", "main", "va"⟩, secretArn := none
    clientId := some "id", clientSecret := some "secret", apiKey := none }
  have hm : Plan.make settings.env event = .ok plan := Plan.make_eq_ok_iff.mpr
    ⟨by decide +kernel, by decide +kernel, by decide +kernel, by decide +kernel, by decide +kernel,
      by decide +kernel, by decide +kernel, by decide +kernel, by decide +kernel,
      by decide +kernel⟩
  obtain ⟨ascii, tld, base, ha, hascii, -, -, hrespelled⟩ :=
    handle_respelled hm (by decide +kernel) (by decide +kernel)
  obtain ⟨-, hurl, -, hother⟩ := hrespelled "US-West-2-Prod" (by decide +kernel)
  obtain ⟨hmake, hhandle⟩ := hother settings.env (event.set "region" "US-West-2-Prod")
    (fun _ _ => rfl) (event.sameBut_set _ _) (by decide +kernel)
  obtain ⟨built, hb, hhost⟩ := hurl ⟨"id", "secret"⟩
  have hlower : lower plan.region.toList = "us-west-2-prod".toList := by decide +kernel
  obtain rfl : ascii = "us-west-2-prod".toList := (hascii (by decide +kernel)).trans hlower
  exact ⟨settings, event, _, plan, built, hm, rfl, hmake, hb, hhost.trans (by decide +kernel),
    (hhandle (by decide +kernel)).1⟩

/-- Spellings of a region whose tokens another one issues: only the one in small letters is found,
    so that the other one has its tokens issued elsewhere, while the API endpoint is the same. -/
theorem handle_respelled_elsewhere :
    ∃ (settings : Settings) (event otherEvent : Event) (plan other : Plan) (built found : Url),
      Plan.make settings.env event = .ok plan ∧ plan.region = "Voice-Prod" ∧
        Plan.make settings.env otherEvent = .ok other ∧ other.region = "voice-prod" ∧
        Plan.input? settings.env event "apiDomain" = none ∧
        Plan.input? settings.env event "authDomain" = none ∧
        lower plan.region.toList = lower other.region.toList ∧ plan.domain = other.domain ∧
        Url.parse (TokenExchange.request (authDomain plan) ⟨"id", "secret"⟩).url = .ok built ∧
        Url.parse (TokenExchange.request (authDomain other) ⟨"id", "secret"⟩).url = .ok found ∧
        built.host? = some (.name "auth.voice-prod.cresta.ai".toList) ∧
        found.host? = some (.name "auth.us-west-2-prod.cresta.ai".toList) := by
  let settings : Settings := .ofEnvironment ⟨[("region", "Voice-Prod"),
    ("oauthClientId", "id"), ("oauthClientSecret", "secret")]⟩
  let event : Event := ⟨[], [("action", "get_handoff_data"),
    ("virtualAgentName", "customers/acme/profiles/main/virtualAgents/va")], none⟩
  let plan : Plan := {
    region := "Voice-Prod", domain := "https://api.voice-prod.cresta.com"
    authDomain := none, action := .handoff, agent := ⟨"acme", "main", "va"⟩, secretArn := none
    clientId := some "id", clientSecret := some "secret", apiKey := none }
  have hm : Plan.make settings.env event = .ok plan := Plan.make_eq_ok_iff.mpr
    ⟨by decide +kernel, by decide +kernel, by decide +kernel, by decide +kernel, by decide +kernel,
      by decide +kernel, by decide +kernel, by decide +kernel, by decide +kernel,
      by decide +kernel⟩
  have ho : Plan.make settings.env (event.set "region" "voice-prod") =
      .ok { plan with region := "voice-prod" } := Plan.make_eq_ok_iff.mpr
    ⟨by decide +kernel, by decide +kernel, by decide +kernel, by decide +kernel, by decide +kernel,
      by decide +kernel, by decide +kernel, by decide +kernel, by decide +kernel,
      by decide +kernel⟩
  have hlower : lower "Voice-Prod".toList = "voice-prod".toList ∧
      lower "voice-prod".toList = "voice-prod".toList := by
    decide
  have hascii : toAscii? "voice-prod".toList = some "voice-prod".toList :=
    Region.toAscii?_eq_self (Text.forall_of_all (by decide)) (by decide)
  have hdomain : Region.apiDomain? "Voice-Prod" = some plan.domain ∧
      Region.apiDomain? "voice-prod" = some plan.domain := by
    decide +kernel
  have hbuilt := Region.parse_tokenRequest_of_ascii hdomain.1
    (by rw [hlower.1]; exact hascii) ⟨"id", "secret"⟩
  have hfound := Region.parse_tokenRequest_of_ascii hdomain.2
    (by rw [hlower.2]; exact hascii) ⟨"id", "secret"⟩
  exact ⟨settings, event, _, plan, _, _, _, hm, rfl, ho, rfl, by decide +kernel,
    by decide +kernel, hlower.1.trans hlower.2.symm, rfl, hbuilt, hfound, by decide +kernel,
    by decide +kernel⟩

end Gateway

end CallTransfer
