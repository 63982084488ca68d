import CallTransfer.Proofs.Gateway.Authorisation
import CallTransfer.Proofs.Gateway.Rounds
import CallTransfer.Proofs.Http.Redacted

/-!
    The TRAFFIC of an invocation: which requests it makes, and in which order. They come in rounds,
    and a round after the first asks for a token only if the one before it got a token that was not
    to be kept. With a key nothing is asked for, and the desk does not matter.
-/

namespace CallTransfer

open Http (Attempt Network addressed authorized carrying lastBody?)
open TokenExchange (IsLive Grants)

/-! ### From one round to the next -/

namespace World

variable {retries : Nat} {domain : String} {client : Credentials} {w after : World}
  {exchange : List Attempt} {token : String}

/-- An exchange without attempts changes nothing. -/
theorem Exchanges.eq_of_nil (h : w.Exchanges retries domain client [] after) : after = w := by
  have hnetwork : after.network = w.network := h.asked.network.eq_of_nil
  calc after = ⟨after.network, after.desk, after.vault⟩ := rfl
    _ = ⟨w.network, w.desk, w.vault⟩ := by rw [hnetwork, h.desk, h.asked.vault]; rfl

theorem Exchanges.isAuthorized (h : w.Exchanges retries domain client exchange after) :
    ∀ a ∈ exchange, a.request.isAuthorized = true := by
  intro a ha
  rw [(h.asked.same a ha).1]
  rfl

end World

namespace Gateway

variable {retries : Nat} {auth : Auth} {request : Http.Request} {w v after : World}
  {exchange : List Attempt} {value : Option String} {r next : Round} {rounds : List Round}

section Resolves
variable (h : Resolves retries auth w exchange v value)
include h

theorem Resolves.network : Walk Network.Meets w.network exchange v.network := by
  cases h with
  | token made handed => exact made.asked.network
  | noToken made => exact made.asked.network
  | key key => exact .nil _

theorem Resolves.isAuthorized : ∀ a ∈ exchange, a.request.isAuthorized = true := by
  cases h with
  | token made handed => exact made.isAuthorized
  | noToken made => exact made.isAuthorized
  | key key => exact nofun

theorem Resolves.eq_of_nil (hn : exchange = []) : v = w := by
  subst hn
  cases h with
  | token made handed => exact made.eq_of_nil
  | noToken made => exact made.eq_of_nil
  | key key => rfl

end Resolves

theorem Resolves.exchange_of_isLive {domain token : String} {client : Credentials}
    (h : Resolves retries (.oauth2 domain client) w exchange v value)
    (hl : IsLive w.desk client.id token) : exchange = [] := by
  cases h with
  | token made handed => exact made.cached token hl
  | noToken made => exact made.cached token hl

/-- The attempts of a round are made over the network, one after the other. -/
theorem Round.Goes.network (h : r.Goes retries auth request w after) :
    Walk Network.Meets w.network r.attempts after.network := by
  cases h with
  | unauthorised resolved unfit =>
    rw [Round.attempts, Option.toList_none, List.append_nil]
    exact resolved.network
  | carried resolved url carries met => exact resolved.network.concat met.network

/-- All attempts of a round carry what authorises them. -/
theorem Round.Goes.isAuthorized (h : r.Goes retries auth request w after) :
    ∀ a ∈ r.attempts, a.request.isAuthorized = true := by
  cases h with
  | unauthorised resolved unfit =>
    rw [Round.attempts, Option.toList_none, List.append_nil]
    exact resolved.isAuthorized
  | carried resolved url carries met =>
    refine List.forall_mem_append.mpr ⟨resolved.isAuthorized, List.forall_mem_singleton.mpr ?_⟩
    rw [carries]
    exact Http.isAuthorized_carrying ..

/-- A round without attempts changes nothing. -/
theorem Round.Goes.eq_of_idle (h : r.Goes retries auth request w after) (hi : r.attempts = []) :
    after = w := by
  obtain ⟨hexchange, htransfer⟩ := List.append_eq_nil_iff.mp hi
  cases h with
  | unauthorised resolved unfit => exact resolved.eq_of_nil hexchange
  | carried resolved url carries met => cases htransfer

/-- With a live token there is no exchange. -/
theorem Round.Goes.exchange_of_isLive {domain token : String} {client : Credentials}
    (h : r.Goes retries (.oauth2 domain client) request w after)
    (hl : IsLive w.desk client.id token) : r.exchange = [] := by
  cases h with
  | unauthorised resolved unfit => exact resolved.exchange_of_isLive hl
  | carried resolved url carries met => exact resolved.exchange_of_isLive hl

/-- The traffic of a call, in rounds: there are no more of them than attempts at the transfer, and
    all but the last go on to that. -/
structure Traffic (retries : Nat) (auth : Auth) (request : Http.Request) (w : World)
    (rounds : List Round) (after : World) : Prop where
  walk : Walk (Round.Goes retries auth request) w rounds after
  bounded : rounds.length ≤ retries + 1
  active : ∀ r ∈ rounds, r.attempts ≠ []
  complete : ∀ r ∈ rounds.dropLast, r.transfer.isSome = true

theorem Round.IsRetried.isSome (h : r.IsRetried) : r.transfer.isSome = true := by
  obtain ⟨a, ha, -⟩ := h
  rw [ha]
  rfl

theorem Round.attempts_ne_nil_of_isSome (h : r.transfer.isSome = true) : r.attempts ≠ [] := by
  intro hn
  rw [Option.toList_eq_nil_iff.mp (List.append_eq_nil_iff.mp hn).2] at h
  cases h

/-- Rounds that all go on to the transfer make traffic. -/
theorem traffic_of_isSome (h : Walk (Round.Goes retries auth request) w rounds after)
    (hs : ∀ r ∈ rounds, r.transfer.isSome = true) (hl : rounds.length ≤ retries + 1) :
    Traffic retries auth request w rounds after where
  walk := h
  bounded := hl
  active r hr := Round.attempts_ne_nil_of_isSome (hs r hr)
  complete r hr := hs r (List.dropLast_subset rounds hr)

/-- RUN: a call makes traffic. -/
theorem fetch_traffic (settings : RetrySettings) (auth : Auth)
    (hr : request.isAuthorized = false) (w : World) :
    ∃ rounds result after,
      Http.fetch settings World.attempt (some (auth.header (World.issue settings))) request w =
        (result, after) ∧
      Traffic settings.maxRetries.toNat auth request w rounds after := by
  cases hu : Url.parse request.url with
  | error fault =>
    exact ⟨[], _, w, Http.fetch_of_error hu w, traffic_of_isSome (.nil w) nofun (Nat.zero_le _)⟩
  | ok url =>
    obtain ⟨rounds, v, hwalk, hretried, hlength, hends⟩ := fetch_rounds settings auth hr hu w
    have hsome : ∀ r ∈ rounds, r.transfer.isSome = true := fun r hr => (hretried r hr).isSome
    have hbefore := traffic_of_isSome hwalk hsome (Nat.le_succ_of_le hlength)
    rcases hends with hc | ⟨last, result, after, hgoes, -, hf, -⟩
    · exact ⟨rounds, _, v, hc, hbefore⟩
    · by_cases hidle : last.attempts = []
      · rw [hgoes.eq_of_idle hidle] at hf
        exact ⟨rounds, _, v, hf, hbefore⟩
      · refine ⟨rounds ++ [last], _, after, hf, hwalk.concat hgoes, ?_, ?_, ?_⟩
        · rw [List.length_append]
          exact Nat.succ_le_succ hlength
        · refine List.forall_mem_append.mpr ⟨hbefore.active, ?_⟩
          exact List.forall_mem_singleton.mpr hidle
        · rw [List.dropLast_concat]
          exact hsome

/-- What has been left behind are the attempts that go out. -/
theorem Traffic.sent (h : Traffic retries auth request w rounds after) :
    after.network.sent = w.network.sent ++
      ((rounds.flatMap (·.attempts)).filter (·.goesOut)).map fun a =>
        addressed a.url a.request := by
  have hwalk : Walk Network.Meets w.network (rounds.flatMap (·.attempts)) after.network :=
    h.walk.flatMap World.network fun _ _ _ hgoes => hgoes.network
  refine Network.sent_of_walk hwalk ?_
  intro a ha
  obtain ⟨r, hr, har⟩ := List.mem_flatMap.mp ha
  exact h.walk.forall_mem (fun r => ∀ a ∈ r.attempts, a.request.isAuthorized = true)
    (fun _ _ _ hgoes => hgoes.isAuthorized) r hr a har

/-! ### Keys -/

section Key
variable {desk other : TokenDesk} {settings : Settings} {event : Event} {plan : Plan} {key : String}

end Key

/-! ### Invocations -/

/-- An invocation that is planned and authorised makes traffic. -/
theorem traffic_of_auth {settings : Settings} {event : Event} {plan : Plan}
    (hm : Plan.make settings.env event = .ok plan)
    (ha : Gateway.auth World.retrieve plan w = (.ok auth, v)) :
    ∃ rounds, Traffic settings.http.maxRetries.toNat auth
      ((transfer settings event plan).request plan.action) v rounds
      (World.handle settings event w).2 := by
  obtain ⟨rounds, result, after, hf, htraffic⟩ := fetch_traffic settings.http auth
    (rfl : ((transfer settings event plan).request plan.action).isAuthorized = false) v
  obtain ⟨answer, hperform, -⟩ := perform_of_fetch (transfer settings event plan) hf
  have he : World.handle settings event w = _ := (handle_of_auth hm ha).trans hperform
  rw [he]
  exact ⟨rounds, htraffic⟩

end Gateway

end CallTransfer
