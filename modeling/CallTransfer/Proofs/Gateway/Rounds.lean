import CallTransfer.Gateway.World
import CallTransfer.Proofs.Http.Attempts
import CallTransfer.Proofs.Token.Fetcher

/-!
    The rounds of an invocation. Each attempt at its transfer is authorised anew, so that a ROUND is
    an exchange for a token, where the desk has none, and the attempt that carries the token. An
    exchange is a call in its own right, over the same network and with as many attempts; what it
    leaves at the desk is what the next round finds there.
-/

namespace CallTransfer

open Http (Attempt Network Outcome Retried Again authorized carrying concluded lastBody?)
open TokenExchange (IsLive Keepable settle)

namespace World

variable {w after : World} {settings : RetrySettings}

/-! ### Calls without authorisation -/

/-- Whether this is how an attempt ends in a world, in which it changes nothing but the network. -/
structure Meets (w : World) (a : Attempt) (after : World) : Prop where
  network : w.network.Meets a after.network
  desk : after.desk = w.desk
  vault : after.vault = w.vault

/-- An attempt in a world always ends. -/
theorem exists_attempt_meets (url : Url) (request : Http.Request) (w : World) :
    ∃ outcome after, attempt url request w = (.ok outcome, after) ∧
      w.Meets ⟨url, request, outcome⟩ after :=
  ⟨_, _, rfl, rfl, rfl, rfl⟩

theorem meets_of_attempt {url : Url} {request : Http.Request} {outcome : Outcome}
    (h : attempt url request w = (.ok outcome, after)) : w.Meets ⟨url, request, outcome⟩ after := by
  obtain ⟨other, t, ha, hm⟩ := exists_attempt_meets url request w
  cases ha.symm.trans h
  exact hm

/-- Attempts at one request that a call makes of it. -/
structure Asks (retries : Nat) (request : Http.Request) (w : World) (attempts : List Attempt)
    (after : World) : Prop where
  network : Walk Network.Meets w.network attempts after.network
  desk : after.desk = w.desk
  vault : after.vault = w.vault
  bounded : attempts.length ≤ retries + 1
  same : ∀ a ∈ attempts, a.request = request ∧ Url.parse request.url = .ok a.url

theorem asks_nil (retries : Nat) (request : Http.Request) (w : World) :
    w.Asks retries request [] w where
  network := .nil _
  desk := rfl
  vault := rfl
  bounded := Nat.zero_le _
  same := nofun

/-- Attempts in a row are what a call makes of a request, if they are all at it. -/
theorem asks_of_walk {retries : Nat} {request : Http.Request} {url : Url} {attempts : List Attempt}
    (hu : Url.parse request.url = .ok url) (h : Walk Meets w attempts after)
    (hsame : ∀ a ∈ attempts, a.url = url ∧ a.request = request)
    (hlength : attempts.length ≤ retries + 1) : w.Asks retries request attempts after where
  network := h.part World.network fun _ _ _ hm => hm.network
  desk := h.preserves (fun t => t.desk = w.desk) (fun _ _ _ hm => hm.desk.trans) rfl
  vault := h.preserves (fun t => t.vault = w.vault) (fun _ _ _ hm => hm.vault.trans) rfl
  bounded := hlength
  same a ha := ⟨(hsame a ha).2, (hsame a ha).1 ▸ hu⟩

/-- A call without authorisation gets the body that the last of its attempts gets. -/
theorem fetch_asks (settings : RetrySettings) (request : Http.Request) (w : World) :
    ∃ attempts result after, fetch settings request w = (result, after) ∧
      w.Asks settings.maxRetries.toNat request attempts after ∧
      result.toOption = lastBody? attempts := by
  cases hu : Url.parse request.url with
  | error fault =>
    exact ⟨[], _, w, Http.fetch_of_error hu w, asks_nil .., rfl⟩
  | ok url =>
    obtain ⟨outcomes, v, hwalk, hlength, hends⟩ := Http.fetch_walk settings attempt none hu w
    -- each round is an attempt with the request as it is
    obtain ⟨tried, htried, hmeets⟩ := hwalk.exists_relabelled
      (fun s a t => s.Meets a t ∧ (a.url = url ∧ a.request = request) ∧
        a.outcome.isRetryable = true)
      fun s outcome t hr => ⟨⟨url, request, outcome⟩, meets_of_attempt hr.1, ⟨rfl, rfl⟩, hr.2⟩
    have hwalked : Walk Meets w tried v := hmeets.part id fun _ _ _ h => h.1
    have hall := hmeets.forall_mem _ fun _ _ _ h => h.2
    rcases hends with hc | ⟨round, t, hround, hf, -⟩
    · refine ⟨tried, _, v, hc, asks_of_walk hu hwalked (fun a ha => (hall a ha).1) (by omega), ?_⟩
      exact (Http.lastBody?_of_forall_isRetryable fun a ha => (hall a ha).2).symm
    · obtain ⟨outcome, after, ha, hm⟩ := exists_attempt_meets url request v
      cases ha.symm.trans hround
      refine ⟨tried ++ [⟨url, request, outcome⟩], _, t, hf,
        asks_of_walk hu (hwalked.concat hm) ?_ ?_, ?_⟩
      · refine List.forall_mem_append.mpr ⟨fun a ha => (hall a ha).1, ?_⟩
        exact List.forall_mem_singleton.mpr ⟨rfl, rfl⟩
      · rw [List.length_append, List.length_singleton]
        omega
      · rw [Http.lastBody?_concat, Http.toOption_concluded]

/-! ### Exchanges -/

/-- What an exchange leaves at a desk, by the body that it got. -/
def settled (desk : TokenDesk) (client : String) : Option Bytes → TokenDesk
  | some body => (settle desk client (.ok body)).2
  | none => desk

/-- The token that attempts at an exchange are granted, and how long it lives if that is told. -/
def granted? (exchange : List Attempt) : Option (String × Option Int) :=
  (lastBody? exchange).bind fun body => (TokenExchange.granted body).toOption

/-- How an exchange goes for a client: it asks for a token unless the desk has a live one. -/
structure Exchanges (retries : Nat) (domain : String) (client : Credentials) (w : World)
    (exchange : List Attempt) (after : World) : Prop where
  asked : w.Asks retries (TokenExchange.request domain client) exchange
    { after with desk := w.desk }
  desk : after.desk = settled w.desk client.id (lastBody? exchange)
  cached : ∀ token, IsLive w.desk client.id token → exchange = []

/-- Whether this is the token that an exchange hands out: one that is live, or one that is granted
    and can be kept if it is to be. -/
def Hands (w : World) (client : String) (exchange : List Attempt) (token : String) : Prop :=
  IsLive w.desk client token ∨
    ∃ told, granted? exchange = some (token, told) ∧ Keepable w.desk.now told

section Exchange
variable {retries : Nat} {domain : String} {client : Credentials} {exchange : List Attempt}

theorem exchanges_nil (retries : Nat) (domain : String) (client : Credentials) (w : World) :
    w.Exchanges retries domain client [] w where
  asked := asks_nil ..
  desk := rfl
  cached _ _ := rfl

theorem exchanges_of_asks (hdead : ∀ token, ¬ IsLive w.desk client.id token)
    (h : w.Asks retries (TokenExchange.request domain client) exchange after) :
    w.Exchanges retries domain client exchange
      { after with desk := settled after.desk client.id (lastBody? exchange) } where
  asked := by
    rw [← h.desk]
    exact h
  desk := by rw [h.desk]
  cached token hlive := absurd hlive (hdead token)

/-- A reply is settled by its body alone. -/
theorem settled_toOption (desk : TokenDesk) (client : String) (reply : Except Failure Bytes) :
    settled desk client (reply.mapError Halt.failed).toOption = (settle desk client reply).2 := by
  cases reply <;> rfl

/-- A token is granted by the reply that it comes with. -/
theorem granted?_eq_some {reply : Except Failure Bytes} {token : String} {told : Option Int}
    (hbody : (reply.mapError Halt.failed).toOption = lastBody? exchange)
    (hg : TokenExchange.grant reply = .ok (token, told)) :
    granted? exchange = some (token, told) := by
  cases reply with
  | error failure => cases hg
  | ok body =>
    rw [granted?, ← hbody]
    exact congrArg Except.toOption hg

/-- A token is handed out from the desk, or by the body that an exchange gets; and whatever fails
    on the way is a failure to authorise. -/
theorem issue_exchanges (settings : RetrySettings) (domain : String) (client : Credentials)
    (w : World) : ∃ exchange result after, issue settings domain client w = (result, after) ∧
      w.Exchanges settings.maxRetries.toNat domain client exchange after ∧
      (∀ token, result = .ok token → w.Hands client.id exchange token) ∧
      ∀ failure, result = .error (.failed failure) → ∃ text, failure = .auth text := by
  cases hl : TokenExchange.lookup w.desk client.id with
  | some token =>
    refine ⟨[], _, w, TokenExchange.issue_eq_lookup hl, exchanges_nil .., ?_, nofun⟩
    rintro _ ⟨⟩
    exact Or.inl (TokenExchange.lookup_eq_some_iff.mp hl)
  | none =>
    have hset : ∀ u : World, { u with desk := u.desk } = u := fun _ => rfl
    obtain ⟨exchange, got, t, hf, hasks, hbody⟩ :=
      fetch_asks settings (TokenExchange.request domain client) w
    have hmade := exchanges_of_asks (TokenExchange.lookup_eq_none_iff.mp hl) hasks
    rw [← hbody] at hmade
    have hreply : (∃ crash, got = .error (.crashed crash)) ∨
        ∃ reply : Except Failure Bytes, got = reply.mapError .failed := by
      rcases got with (failure | crash) | body
      · exact Or.inr ⟨.error failure, rfl⟩
      · exact Or.inl ⟨crash, rfl⟩
      · exact Or.inr ⟨.ok body, rfl⟩
    rcases hreply with ⟨crash, rfl⟩ | ⟨reply, rfl⟩
    · exact ⟨exchange, _, t, TokenExchange.issue_of_crash hl hf, hmade, nofun, nofun⟩
    · rw [settled_toOption] at hmade
      refine ⟨exchange, _, _, TokenExchange.issue_eq_settle hset hl hf, hmade, ?_, ?_⟩
      · intro token htoken
        obtain ⟨told, hg, hk⟩ := TokenExchange.settle_eq_ok_iff.mp htoken
        rw [hasks.desk] at hk
        exact Or.inr ⟨told, granted?_eq_some hbody (TokenExchange.grant_eq_ok_iff.mpr hg), hk⟩
      · exact fun failure => TokenExchange.auth_of_settle

end Exchange

end World

namespace Gateway

/-! ### Rounds -/

/-- A round: the attempts at an exchange, and the attempt at the transfer if it comes to that. -/
structure Round where
  exchange : List Attempt
  transfer : Option Attempt

/-- The attempts of a round, in their order. -/
def Round.attempts (r : Round) : List Attempt := r.exchange ++ r.transfer.toList

/-- What authorises a round: the exchange for it, the world behind that, and the value that comes of
    it if any does. -/
inductive Resolves (retries : Nat) : Auth → World → List Attempt → World → Option String → Prop
  | token {domain : String} {client : Credentials} {w : World} {exchange : List Attempt} {v : World}
      {token : String} (made : w.Exchanges retries domain client exchange v)
      (handed : w.Hands client.id exchange token) :
      Resolves retries (.oauth2 domain client) w exchange v (some ("Bearer " ++ token))
  | noToken {domain : String} {client : Credentials} {w : World} {exchange : List Attempt}
      {v : World} (made : w.Exchanges retries domain client exchange v) :
      Resolves retries (.oauth2 domain client) w exchange v none
  | key (key : String) (w : World) :
      Resolves retries (.apiKey key) w [] w (some ("ApiKey " ++ key))

/-- How a round goes for a request: it ends without a transfer if nothing authorises that that may
    stand in a header, and otherwise the request carries it. -/
inductive Round.Goes (retries : Nat) (auth : Auth) (request : Http.Request) :
    World → Round → World → Prop
  | unauthorised {w v : World} {exchange : List Attempt} {value : Option String}
      (resolved : Resolves retries auth w exchange v value)
      (unfit : ∀ text, value = some text → Http.isHeaderValue text = false) :
      Goes retries auth request w ⟨exchange, none⟩ v
  | carried {w v after : World} {exchange : List Attempt} {value : String} {a : Attempt}
      (resolved : Resolves retries auth w exchange v (some value))
      (url : Url.parse request.url = .ok a.url) (carries : a.request = carrying request value)
      (met : v.Meets a after) : Goes retries auth request w ⟨exchange, some a⟩ after

/-- What a round comes to: that of its transfer, or else a failure to authorise or a crash. -/
inductive Round.Ends : Round → Except Halt Outcome → Prop
  | attempted {r : Round} {a : Attempt} (h : r.transfer = some a) : Ends r (.ok a.outcome)
  | refused {r : Round} (h : r.transfer = none) (text : String) :
      Ends r (.error (.failed (.auth text)))
  | crashed {r : Round} (h : r.transfer = none) (crash : Crash) : Ends r (.error (.crashed crash))

section Rounds
variable {request : Http.Request} {url : Url}

/-- The header of an attempt is resolved by an exchange, or by a key. -/
theorem header_resolves (settings : RetrySettings) (auth : Auth) (w : World) :
    ∃ exchange result v, auth.header (World.issue settings) w = (result, v) ∧
      Resolves settings.maxRetries.toNat auth w exchange v result.toOption := by
  cases auth with
  | apiKey key => exact ⟨[], _, w, rfl, .key key w⟩
  | oauth2 domain client =>
    simp only [Auth.header]
    split
    · exact ⟨[], _, w, rfl, .noToken (World.exchanges_nil ..)⟩
    · obtain ⟨exchange, result, v, hissue, hmade, htoken, -⟩ :=
        World.issue_exchanges settings domain client w
      cases result with
      | error halt => exact ⟨exchange, _, v, Act.run_bind_error hissue _, .noToken hmade⟩
      | ok token =>
        exact ⟨exchange, _, v, Act.run_bind_ok hissue _, .token hmade (htoken token rfl)⟩

/-- A round goes on to its transfer, unless it fails to authorise that or crashes. -/
theorem round_goes (settings : RetrySettings) (auth : Auth) (hr : request.isAuthorized = false)
    (hu : Url.parse request.url = .ok url) (w : World) : ∃ r result after,
      (authorized (some (auth.header (World.issue settings))) request >>= World.attempt url) w =
        (result, after) ∧
      Round.Goes settings.maxRetries.toNat auth request w r after ∧ r.Ends result := by
  obtain ⟨exchange, made, v, hheader, hresolves⟩ := header_resolves settings auth w
  have hauthorized := Http.authorized_eq_bind (auth.header (World.issue settings)) hr
  have hnone : ∀ text, (none : Option String) = some text → Http.isHeaderValue text = false :=
    fun _ h => absurd h (Option.some_ne_none _).symm
  rcases made with (failure | crash) | value
  · obtain ⟨text, htext⟩ := Http.asAuth_eq failure
    have he := Http.authorized_of_failure hr hheader
    rw [htext] at he
    exact ⟨⟨exchange, none⟩, _, v, Act.run_bind_error he _, .unauthorised hresolves hnone,
      .refused rfl text⟩
  · have he : authorized (some (auth.header (World.issue settings))) request w =
        (.error (.crashed crash), v) := by
      rw [hauthorized]
      refine Act.run_bind_error ?_ _
      simp only [Act.rewording, hheader]
    exact ⟨⟨exchange, none⟩, _, v, Act.run_bind_error he _, .unauthorised hresolves hnone,
      .crashed rfl crash⟩
  · have he := Act.run_bind_ok (Act.run_rewording_ok hheader Failure.asAuth) fun value =>
      if Http.isHeaderValue value then pure (carrying request value)
      else Act.fail (.auth "authorization header contains invalid characters")
    rw [← hauthorized] at he
    cases hv : Http.isHeaderValue value with
    | false =>
      rw [hv] at he
      refine ⟨⟨exchange, none⟩, _, v, Act.run_bind_error he _, .unauthorised hresolves ?_,
        .refused rfl _⟩
      rintro _ ⟨⟩
      exact hv
    | true =>
      rw [hv] at he
      obtain ⟨outcome, after, hattempt, hmet⟩ :=
        World.exists_attempt_meets url (carrying request value) v
      let a : Attempt := ⟨url, carrying request value, outcome⟩
      exact ⟨⟨exchange, some a⟩, _, after, (Act.run_bind_ok he _).trans hattempt,
        .carried hresolves hu rfl hmet, .attempted (a := a) rfl⟩

/-! ### Calls -/

/-- Whether a round is followed by another one where there is one left: its transfer ended in a way
    that trying again may cure. -/
def Round.IsRetried (r : Round) : Prop := ∃ a, r.transfer = some a ∧ a.outcome.isRetryable = true

/-- A call goes through rounds that are followed by another one, and comes to what the round comes
    to that it ends with, unless a pause crashes on the way. -/
theorem fetch_rounds (settings : RetrySettings) (auth : Auth) (hr : request.isAuthorized = false)
    (hu : Url.parse request.url = .ok url) (w : World) : ∃ rounds v,
      Walk (Round.Goes settings.maxRetries.toNat auth request) w rounds v ∧
      (∀ r ∈ rounds, r.IsRetried) ∧ rounds.length ≤ settings.maxRetries.toNat ∧
      (Http.fetch settings World.attempt (some (auth.header (World.issue settings))) request w =
          (.error (.crashed .delay), v) ∨
        ∃ last result after, Round.Goes settings.maxRetries.toNat auth request v last after ∧
          last.Ends result ∧
          Http.fetch settings World.attempt (some (auth.header (World.issue settings))) request w =
            (concluded (settings.maxRetries + 1).toNat result, after) ∧
          (rounds.length = settings.maxRetries.toNat ∨ ¬ Again result)) := by
  obtain ⟨outcomes, v, hwalk, hlength, hends⟩ :=
    Http.fetch_walk settings World.attempt (some (auth.header (World.issue settings))) hu w
  obtain ⟨rounds, hrounds, hgoes⟩ := hwalk.exists_relabelled
    (fun s r t => Round.Goes settings.maxRetries.toNat auth request s r t ∧ r.IsRetried) <| by
    intro s outcome t ⟨hround, hretry⟩
    obtain ⟨r, result, after, he, hgoes, hends⟩ := round_goes settings auth hr hu s
    cases he.symm.trans hround
    cases hends with
    | attempted ha => exact ⟨r, hgoes, _, ha, hretry⟩
  refine ⟨rounds, v, hgoes.part id fun _ _ _ h => h.1, hgoes.forall_mem _ fun _ _ _ h => h.2,
    hrounds ▸ hlength, ?_⟩
  rcases hends with hc | ⟨result, t, hround, hf, hlast⟩
  · exact Or.inl hc
  · obtain ⟨last, _, _, he, hgoes, hends⟩ := round_goes settings auth hr hu v
    cases he.symm.trans hround
    exact Or.inr ⟨last, _, _, hgoes, hends, hf, hrounds ▸ hlast⟩

end Rounds

/-! ### Invocations -/

section Handle
variable {settings : Settings} {services : Services σ} {event : Event} {plan : Plan} {s t : σ}

theorem handle_of_auth_error {halt : Halt} (hm : Plan.make settings.env event = .ok plan)
    (ha : auth services.retrieve plan s = (.error halt, t)) :
    handle settings services event s = (.error halt, t) := by
  rw [handle, hm, Act.run_bind_ok (Act.run_ofExcept_ok _ _ s), Act.run_bind_error ha]

/-- An invocation that is planned and authorised goes on to its transfer. -/
theorem handle_of_auth {made : Auth} (hm : Plan.make settings.env event = .ok plan)
    (ha : auth services.retrieve plan s = (.ok made, t)) :
    handle settings services event s =
      Transfer.perform
        (Http.fetch settings.http services.attempt (some (made.header services.issue)))
        (transfer settings event plan) plan.action t := by
  rw [handle, hm, Act.run_bind_ok (Act.run_ofExcept_ok _ _ s), Act.run_bind_ok ha]

/-- What a transfer leaves is what its call leaves, and it fails with its call, or for the shape of
    what that got. -/
theorem perform_of_fetch {fetch : Http.Request → Act σ Bytes} (transfer : Transfer)
    {action : Action} {result : Except Halt Bytes}
    (h : fetch (transfer.request action) s = (result, t)) :
    ∃ answer, Transfer.perform fetch transfer action s = (answer, t) ∧
      (∀ halt, result = .error halt → answer = .error halt) ∧
      ∀ body, result = .ok body → ∀ halt, answer = .error halt →
        ∃ text, halt = .failed (.responseShape text) := by
  cases result with
  | error halt =>
    refine ⟨_, Act.run_bind_error h _, ?_, nofun⟩
    rintro _ ⟨⟩
    rfl
  | ok body =>
    rw [Transfer.perform, Act.run_bind_ok h]
    cases Transfer.answer (transfer.url action) action body with
    | ok answer => exact ⟨_, rfl, nofun, fun _ _ _ => nofun⟩
    | error fault =>
      refine ⟨_, rfl, nofun, ?_⟩
      rintro _ - _ ⟨⟩
      exact ⟨_, rfl⟩

end Handle

/-- A keeper of secrets that leaves the network and the desk as they are. -/
def KeepsToVault (retrieve : String → Act World Credentials) : Prop :=
  ∀ arn w, (retrieve arn w).2.network = w.network ∧ (retrieve arn w).2.desk = w.desk

theorem keepsToVault_retrieve : KeepsToVault World.retrieve := fun _ _ => ⟨rfl, rfl⟩

/-- Putting failures in other words does nothing else. -/
theorem rewording_snd (reword : Failure → Failure) (act : Act σ α) (s : σ) :
    (Act.rewording reword act s).2 = (act s).2 := by
  rcases ha : act s with ⟨(failure | crash) | a, t⟩ <;> simp only [Act.rewording, ha]

/-- What is done to choose a mode is to ask for the client. -/
theorem auth_snd (retrieve : String → Act σ Credentials) (plan : Plan) (s : σ) :
    (auth retrieve plan s).2 = (client retrieve plan s).2 := by
  rcases hc : client retrieve plan s with ⟨halt | c, t⟩
  · rw [auth, Act.run_bind_error hc]
  · rw [auth, Act.run_bind_ok hc]
    cases Auth.ofKnown? (authDomain plan) c.id c.secret (plan.apiKey.getD "") <;> rfl

/-- Choosing a mode leaves the network and the desk as they are. -/
theorem auth_keepsToVault {retrieve : String → Act World Credentials} (hk : KeepsToVault retrieve)
    {plan : Plan} {w v : World} {result : Except Halt Auth}
    (h : auth retrieve plan w = (result, v)) : v.network = w.network ∧ v.desk = w.desk := by
  have hv : v = (client retrieve plan w).2 := (congrArg Prod.snd h).symm.trans (auth_snd ..)
  rw [hv, client]
  cases plan.secretArn with
  | some arn =>
    simp only [rewording_snd]
    exact hk arn w
  | none => exact ⟨rfl, rfl⟩

end Gateway

end CallTransfer
