import CallTransfer.Proofs.Gateway.Traffic

/-!
    How long a token is KEPT. From the exchange that it is granted in up to its end it is handed out
    to its client, whatever is done with the fetcher and its cache in between, as long as nobody
    sets or clears that client's token and the client does not ask for one when it has ended. Until
    then an invocation for the client asks for no token; from then on the next exchange asks for one
    again.
-/

namespace CallTransfer.TokenExchange

open TokenDesk (hasEnd endOf)

/-! ### Operations -/

/-- An operation on a fetcher: an exchange, or a step at its desk. -/
inductive Operation where
  | exchange (domain : String) (client : Credentials) (reply : Except Failure Bytes)
      (arrival : Instant)
  | desk (step : TokenDesk.Step)

namespace Fetcher

/-- A fetcher after an operation; a step at the desk that crashes leaves that as it is. -/
def step (fetcher : Fetcher) : Operation → Fetcher
  | .exchange domain client reply arrival => (fetcher.exchange domain client reply arrival).2
  | .desk step => { fetcher with desk := (fetcher.desk.tryStep step).2 }

/-- A fetcher after operations in a row. -/
def run (fetcher : Fetcher) (operations : List Operation) : Fetcher := operations.foldl step fetcher

end Fetcher

/-- Whether an operation preserves a client's token that is kept up to its end: it does not set or
    clear it, and if it is an exchange for the client the end has not been reached. -/
def Preserves (client : String) (ending : Instant) (fetcher : Fetcher) : Operation → Prop
  | .exchange _ other _ _ => other.id = client → fetcher.desk.now < ending
  | .desk (.use _ (.set other _ _)) => other ≠ client
  | .desk (.use _ (.clear other)) => other ≠ client
  | .desk (.use _ (.get _)) | .desk (.use _ .copy) | .desk (.advance _ _) => True

/-- Whether operations in a row preserve a client's token, each of them in the fetcher that it
    finds. -/
def PreservesAll (client : String) (ending : Instant) : Fetcher → List Operation → Prop
  | _, [] => True
  | fetcher, operation :: operations =>
    Preserves client ending fetcher operation ∧
      PreservesAll client ending (fetcher.step operation) operations

section Keeping
variable {fetcher : Fetcher} {client token : String} {ending : Instant} {operation : Operation}
  {operations : List Operation}

/-- Whether a fetcher keeps a token of a client up to its end. -/
def Keeps (client token : String) (ending : Instant) (fetcher : Fetcher) : Prop :=
  fetcher.desk.cache.entries.find? client = some ⟨token, ending⟩ ∧ token ≠ ""

/-- A token that is kept is live up to its end. -/
theorem Keeps.isLive (h : Keeps client token ending fetcher) (hn : fetcher.desk.now < ending) :
    IsLive fetcher.desk client token :=
  ⟨ending, h.1, h.2, hn⟩

/-- No other token of the client is live, and none from the end on. -/
theorem Keeps.eq_of_isLive (h : Keeps client token ending fetcher) {other : String}
    (hl : IsLive fetcher.desk client other) : other = token ∧ fetcher.desk.now < ending := by
  obtain ⟨expiry, hf, -, hn⟩ := hl
  cases h.1.symm.trans hf
  exact ⟨rfl, hn⟩

/-- A step at the desk that preserves a token leaves its entry. -/
theorem find?_tryStep {step : TokenDesk.Step} (hs : Preserves client ending fetcher (.desk step)) :
    (fetcher.desk.tryStep step).2.cache.entries.find? client =
      fetcher.desk.cache.entries.find? client := by
  cases step with
  | use handle what =>
    cases what with
    | set other found lifetime =>
      have hother : client ≠ other := Ne.symm hs
      rcases TokenDesk.set_cases fetcher.desk.cache fetcher.desk.now other found lifetime with
        ⟨-, hset⟩ | ⟨-, -, hset⟩ | ⟨-, -, crash, hset⟩
      · rw [TokenDesk.tryStep_of_ok (by rw [TokenDesk.step, TokenDesk.use, hset]; rfl)]
      · rw [TokenDesk.tryStep_of_ok (by rw [TokenDesk.step, TokenDesk.use, hset]; rfl)]
        exact (Members.find?_insert ..).trans (if_neg hother)
      · rw [TokenDesk.tryStep_of_error (by rw [TokenDesk.step, TokenDesk.use, hset]; rfl)]
    | get other => rfl
    | clear other => exact (Members.find?_erase ..).trans (if_neg (Ne.symm hs))
    | copy => rfl
  | advance ms ns =>
    cases hl : fetcher.desk.now.later (ms * Instant.millisecond + ns) with
    | ok now => rw [TokenDesk.tryStep_of_ok (by rw [TokenDesk.step, hl]; rfl)]
    | error crash => rw [TokenDesk.tryStep_of_error (by rw [TokenDesk.step, hl]; rfl)]

/-- STEP: an operation that preserves a token leaves it kept. -/
theorem Keeps.step (h : Keeps client token ending fetcher)
    (hs : Preserves client ending fetcher operation) :
    Keeps client token ending (fetcher.step operation) := by
  cases operation with
  | exchange domain other reply arrival =>
    by_cases hc : other.id = client
    · subst hc
      have hlive := h.isLive (hs rfl)
      simp only [Fetcher.step, exchange_of_isLive hlive]
      exact h
    · refine ⟨?_, h.2⟩
      cases hl : lookup fetcher.desk other.id with
      | some found =>
        simp only [Fetcher.step, exchange_of_isLive (lookup_eq_some_iff.mp hl)]
        exact h.1
      | none =>
        simp only [Fetcher.step, exchange_of_not_isLive (lookup_eq_none_iff.mp hl)]
        exact (settle_preserves _ (Ne.symm hc) reply).trans h.1
  | desk step => exact ⟨(find?_tryStep hs).trans h.1, h.2⟩

/-- RUN: operations in a row that preserve a token leave it kept. -/
theorem Keeps.run (h : Keeps client token ending fetcher)
    (hs : PreservesAll client ending fetcher operations) :
    Keeps client token ending (fetcher.run operations) := by
  induction operations generalizing fetcher with
  | nil => exact h
  | cons operation operations ih => exact ih (h.step hs.1) hs.2

/-- From its end on a token is not live, nor is any other one of the client. -/
theorem Keeps.not_isLive (h : Keeps client token ending fetcher)
    (hn : ending ≤ fetcher.desk.now) (other : String) : ¬ IsLive fetcher.desk client other :=
  fun hl => Int.not_le.mpr (h.eq_of_isLive hl).2 hn

end Keeping

/-- A token that is granted for long enough is handed out, and kept from then on. -/
theorem keeps_of_grants {fetcher : Fetcher} {domain token : String} {client : Credentials}
    {reply : Except Failure Bytes} {arrival : Instant} {lifetime : Int}
    (hdead : ∀ token, ¬ IsLive fetcher.desk client.id token)
    (hg : Grants reply token (some lifetime)) (hl : 300 < lifetime)
    (he : hasEnd arrival lifetime = true) :
    (fetcher.exchange domain client reply arrival).1 = .ok token ∧
      Keeps client.id token (endOf arrival lifetime)
        (fetcher.exchange domain client reply arrival).2 := by
  have hk : Keepable arrival (some lifetime) := by
    rintro _ ⟨⟩ -
    exact he
  obtain ⟨cache, hsettle, hleaves⟩ :=
    settle_of_grants { fetcher.desk with now := arrival } client.id hg hk
  obtain ⟨-, -, -, -, -, ht, -⟩ := hg
  rw [exchange_of_not_isLive hdead, hsettle]
  exact ⟨rfl, (hleaves.long lifetime rfl hl client.id).trans (if_pos rfl), ht⟩

end CallTransfer.TokenExchange

namespace CallTransfer.Gateway

open Http (Network carrying)
open TokenDesk (hasEnd endOf)
open TokenExchange (Fetcher Grants IsLive PreservesAll Operation)

/-! ### Invocations with a live token -/

section Live
variable {retries : Nat} {domain token : String} {client : Credentials} {request : Http.Request}
  {w after : World} {r : Round} {rounds : List Round}

/-- A client has one live token at most. -/
theorem isLive_unique {desk : TokenDesk} {client token other : String}
    (h : IsLive desk client token) (ho : IsLive desk client other) : other = token := by
  obtain ⟨_, hf, -⟩ := h
  obtain ⟨_, hfo, -⟩ := ho
  cases hf.symm.trans hfo
  rfl

/-- STEP: in a round with a live token there is nothing but the transfer that carries it. -/
theorem Round.Goes.of_isLive (h : r.Goes retries (.oauth2 domain client) request w after)
    (hl : IsLive w.desk client.id token) : after.desk = w.desk ∧
      ∀ a ∈ r.attempts, a.request = carrying request ("Bearer " ++ token) := by
  have hnone := h.exchange_of_isLive hl
  cases h with
  | unauthorised resolved unfit =>
    rw [resolved.eq_of_nil hnone, Round.attempts, hnone]
    exact ⟨rfl, List.forall_mem_nil _⟩
  | carried resolved url carries met =>
    rw [met.desk, resolved.eq_of_nil hnone, Round.attempts, hnone]
    refine ⟨rfl, List.forall_mem_singleton.mpr ?_⟩
    cases resolved with
    | token made handed =>
      rcases handed with hlive | ⟨told, hg, -⟩
      · rw [carries, isLive_unique hl hlive]
      · subst hnone
        cases hg

/-- RUN: with a live token all attempts are transfers that carry it. -/
theorem attempts_of_isLive
    (h : Walk (Round.Goes retries (.oauth2 domain client) request) w rounds after)
    (hl : IsLive w.desk client.id token) : after.desk = w.desk ∧
      ∀ a ∈ rounds.flatMap (·.attempts), a.request = carrying request ("Bearer " ++ token) := by
  induction h with
  | nil w => exact ⟨rfl, List.forall_mem_nil _⟩
  | cons first rest ih =>
    obtain ⟨hdesk, hattempts⟩ := first.of_isLive hl
    obtain ⟨hrest, hmore⟩ := ih (hdesk.symm ▸ hl)
    rw [List.flatMap_cons]
    exact ⟨hrest.trans hdesk, List.forall_mem_append.mpr ⟨hattempts, hmore⟩⟩

/-- An invocation for a client with a live token asks for none. -/
theorem handle_of_isLive {settings : Settings} {event : Event} {plan : Plan} {w v : World}
    (hm : Plan.make settings.env event = .ok plan)
    (ha : Gateway.auth World.retrieve plan w = (.ok (.oauth2 domain client), v))
    (hl : IsLive w.desk client.id token) :
    (World.handle settings event w).2.desk = w.desk ∧ ∃ attempts,
      Walk Network.Meets w.network attempts (World.handle settings event w).2.network ∧
      ∀ a ∈ attempts, a.request =
        carrying ((transfer settings event plan).request plan.action) ("Bearer " ++ token) := by
  obtain ⟨hnetwork, hdesk⟩ := auth_keepsToVault keepsToVault_retrieve ha
  obtain ⟨rounds, htraffic⟩ := traffic_of_auth hm ha
  obtain ⟨hkept, hattempts⟩ := attempts_of_isLive htraffic.walk (hdesk.symm ▸ hl)
  refine ⟨hkept.trans hdesk, _, ?_, hattempts⟩
  rw [← hnetwork]
  exact htraffic.walk.flatMap World.network fun _ _ _ hgoes => hgoes.network

end Live

/-- HANDED OUT AGAIN: let an exchange be granted a token that lives for more than 300 seconds, and
    let any operations follow that preserve it: exchanges of other clients, and of the same one
    before the token has ended, with whatever endpoints, secrets and replies, uses of the desk for
    other clients, and moves of the clock. If the token has not ended by then, the next exchange for
    the client hands it out and changes nothing, whatever endpoint and secret it names, and an
    invocation in its name makes no attempt but at its transfer, with this token. If it has, the
    next exchange sends one request for another one. -/
theorem token_kept {fetcher : Fetcher} {domain token : String} {client : Credentials}
    {reply : Except Failure Bytes} {arrival : Instant} {lifetime : Int}
    {operations : List Operation}
    (hdead : ∀ token, ¬ IsLive fetcher.desk client.id token)
    (hgrants : Grants reply token (some lifetime)) (hlong : 300 < lifetime)
    (hend : hasEnd arrival lifetime = true)
    (hpreserves : PreservesAll client.id (endOf arrival lifetime)
      (fetcher.exchange domain client reply arrival).2 operations) :
    let later := (fetcher.exchange domain client reply arrival).2.run operations
    (fetcher.exchange domain client reply arrival).1 = .ok token ∧
    (later.desk.now < endOf arrival lifetime → ∀ otherDomain secret otherReply otherArrival,
      later.exchange otherDomain ⟨client.id, secret⟩ otherReply otherArrival =
        (.ok token, later)) ∧
    (later.desk.now < endOf arrival lifetime →
      ∀ settings event plan otherDomain secret (w v : World), w.desk = later.desk →
        Plan.make settings.env event = .ok plan →
        Gateway.auth World.retrieve plan w =
          (.ok (.oauth2 otherDomain ⟨client.id, secret⟩), v) →
        (World.handle settings event w).2.desk = w.desk ∧ ∃ attempts,
          Walk Network.Meets w.network attempts (World.handle settings event w).2.network ∧
          ∀ a ∈ attempts, a.request =
            carrying ((transfer settings event plan).request plan.action)
              ("Bearer " ++ token)) ∧
    (endOf arrival lifetime ≤ later.desk.now → ∀ otherDomain secret otherReply otherArrival,
      (later.exchange otherDomain ⟨client.id, secret⟩ otherReply otherArrival).2.sent =
        later.sent ++ [TokenExchange.request otherDomain ⟨client.id, secret⟩]) := by
  intro later
  obtain ⟨htoken, hkept⟩ := TokenExchange.keeps_of_grants hdead hgrants hlong hend
  have hlater : TokenExchange.Keeps client.id token (endOf arrival lifetime) later :=
    hkept.run hpreserves
  refine ⟨htoken, ?_, ?_, ?_⟩
  · intro hn otherDomain secret otherReply otherArrival
    exact TokenExchange.exchange_of_isLive (hlater.isLive hn)
  · intro hn settings event plan otherDomain secret w v hw hm ha
    exact handle_of_isLive hm ha (hw ▸ hlater.isLive hn)
  · intro hn otherDomain secret otherReply otherArrival
    let other : Credentials := ⟨client.id, secret⟩
    have hended : ∀ token, ¬ IsLive later.desk other.id token := hlater.not_isLive hn
    exact congrArg (·.2.sent) (TokenExchange.exchange_of_not_isLive hended)

/-- A token that lives 301 seconds is kept for one, past another client who is granted a token and
    gives it up. Half a second later it is handed out again, and after another half it is not. -/
theorem token_kept_second :
    let client : Credentials := ⟨"id", "secret"⟩
    let fetcher : Fetcher := ⟨.opened 0, []⟩
    let reply (token : String) : Except Failure Bytes := .ok (Text.Utf8.encode
      ("\x7b\"access_token\":\"" ++ token ++ "\",\"expires_in\":301\x7d"))
    let first := (fetcher.exchange "http://h" client (reply "one") 0).2
    let operations : List Operation := [.exchange "http://h" ⟨"other", "secret"⟩ (reply "two") 5,
      .desk (.use 0 (.clear "other")), .desk (.advance 500 0)]
    let later := first.run operations
    let ended := first.run (operations ++ [.desk (.advance 500 0)])
    later.exchange "http://i" ⟨"id", ""⟩ (reply "three") 0 = (.ok "one", later) ∧
      (ended.exchange "http://i" ⟨"id", ""⟩ (reply "three") 0).2.sent =
        ended.sent ++ [TokenExchange.request "http://i" ⟨"id", ""⟩] := by
  intro client fetcher reply first operations later ended
  have hdead : ∀ token, ¬ IsLive fetcher.desk client.id token :=
    TokenExchange.lookup_eq_none_iff.mp (by decide)
  have hgrants : Grants (reply "one") "one" (some 301) :=
    ⟨_, ⟨some "one", none, some 301⟩, rfl, by decide +kernel, rfl, by decide, rfl⟩
  have hother : "other" ≠ "id" := by decide
  have hpreserves : PreservesAll client.id (endOf 0 301) first operations :=
    ⟨fun h => absurd h hother, hother, trivial, trivial⟩
  have hpreservesMore : PreservesAll client.id (endOf 0 301) first
      (operations ++ [.desk (.advance 500 0)]) :=
    ⟨fun h => absurd h hother, hother, trivial, trivial, trivial⟩
  refine ⟨?_, ?_⟩
  · exact (token_kept hdead hgrants (by decide) (by decide) hpreserves).2.1 (by decide +kernel)
      "http://i" "" (reply "three") 0
  · exact (token_kept hdead hgrants (by decide) (by decide) hpreservesMore).2.2.2
      (by decide +kernel) "http://i" "" (reply "three") 0

end CallTransfer.Gateway
