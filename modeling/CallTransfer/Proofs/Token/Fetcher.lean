import CallTransfer.Proofs.Token.Interleaving

/-!
    The state of a token fetcher: its cache, with clock and handles, and the requests that it has
    sent. An exchange sends nothing if the cache has a token that is LIVE; otherwise it sends one
    request, whose reply may come at any later or earlier time, and everything else follows from
    that reply.
-/

namespace CallTransfer.TokenExchange

open TokenDesk (hasEnd endOf)

/-- The desk of a token fetcher, and the requests that it has sent. -/
structure Fetcher where
  desk : TokenDesk
  sent : List Http.Request

namespace Fetcher

/-- Sends a request, the reply to which is there at an instant. -/
def send (reply : Except Failure Bytes) (arrival : Instant) (request : Http.Request) :
    Act Fetcher Bytes := fun fetcher =>
  (reply.mapError .failed,
    ⟨{ fetcher.desk with now := arrival }, fetcher.sent ++ [request]⟩)

/-- An exchange, the request of which gets a reply at an instant if there is one. -/
def exchange (domain : String) (client : Credentials) (reply : Except Failure Bytes)
    (arrival : Instant) : Act Fetcher String :=
  issue (send reply arrival) desk (fun desk fetcher => { fetcher with desk }) domain client

end Fetcher

/-! ### What the desk has -/

/-- Whether a desk has a token of a client that is handed out. -/
def IsLive (desk : TokenDesk) (client token : String) : Prop :=
  ∃ expiry, desk.cache.entries.find? client = some ⟨token, expiry⟩ ∧ token ≠ "" ∧
    desk.now < expiry

section Exchange
variable {fetcher : Fetcher} {domain : String} {client : Credentials}
  {reply : Except Failure Bytes} {arrival : Instant}

theorem lookup_eq_some_iff {desk : TokenDesk} {client token : String} :
    lookup desk client = some token ↔ IsLive desk client token :=
  TokenCache.get?_eq_some_iff

/-- Nothing is found exactly if nothing is live. -/
theorem lookup_eq_none_iff {desk : TokenDesk} {client : String} :
    lookup desk client = none ↔ ∀ token, ¬ IsLive desk client token := by
  simp only [Option.eq_none_iff_forall_ne_some, ← lookup_eq_some_iff, ne_eq]

theorem exchange_of_isLive {token : String} (h : IsLive fetcher.desk client.id token) :
    fetcher.exchange domain client reply arrival = (.ok token, fetcher) :=
  issue_eq_lookup (lookup_eq_some_iff.mpr h)

/-- Without a token that is live, an exchange settles the reply to one request. -/
theorem exchange_of_not_isLive (h : ∀ token, ¬ IsLive fetcher.desk client.id token) :
    let desk := { fetcher.desk with now := arrival }
    fetcher.exchange domain client reply arrival =
      ((settle desk client.id reply).1,
        ⟨(settle desk client.id reply).2, fetcher.sent ++ [request domain client]⟩) := by
  intro desk
  have hsent : Fetcher.send reply arrival (request domain client) fetcher =
      (reply.mapError .failed, ⟨desk, fetcher.sent ++ [request domain client]⟩) := rfl
  exact issue_eq_settle (fun _ => rfl) (lookup_eq_none_iff.mpr h) hsent

/-! ### What a reply grants -/

/-- Whether a reply is an answer with a token, and tells how long it lives if it does. -/
def Grants (reply : Except Failure Bytes) (token : String) (told : Option Int) : Prop :=
  ∃ body answer, reply = .ok body ∧ TokenResponse.decode? body = some answer ∧
    answer.accessToken = some token ∧ token ≠ "" ∧ answer.expiresIn = told

/-- Whether a token that is granted at an instant is either not to be kept, or can be. -/
def Keepable (set : Instant) (told : Option Int) : Prop :=
  ∀ lifetime, told = some lifetime → 300 < lifetime → hasEnd set lifetime = true

theorem grant_eq_ok_iff {token : String} {told : Option Int} :
    grant reply = .ok (token, told) ↔ Grants reply token told := by
  constructor
  · exact answer_of_grant
  · rintro ⟨body, answer, rfl, h⟩
    exact granted_eq_ok_iff.mpr ⟨answer, h⟩

/-- Whatever goes wrong with a reply is a failure to authorise. -/
theorem auth_of_grant_eq_error {failure : Failure} (h : grant reply = .error failure) :
    ∃ text, failure = .auth text := by
  cases reply with
  | error cause =>
    cases h
    cases cause <;> exact ⟨_, rfl⟩
  | ok body =>
    simp only [grant, granted] at h
    split at h
    · cases h
      exact ⟨_, rfl⟩
    · split at h
      · cases h
      · cases h
        exact ⟨_, rfl⟩

/-- Whatever is a failure when a reply is settled is one to authorise. -/
theorem auth_of_settle {desk : TokenDesk} {client : String} {failure : Failure}
    (h : (settle desk client reply).1 = .error (.failed failure)) :
    ∃ text, failure = .auth text := by
  rcases settle_cases desk client reply with
    ⟨_, hg, he⟩ | ⟨_, _, -, ⟨_, -, he⟩ | ⟨_, -, he⟩⟩
  · rw [he] at h
    cases h
    exact auth_of_grant_eq_error hg
  · rw [he] at h
    cases h
  · rw [he] at h
    cases h

/-- A token is not to be kept, or it lives long enough. -/
theorem short_or_long (told : Option Int) : (∀ lifetime, told = some lifetime → lifetime ≤ 300) ∨
    ∃ lifetime, told = some lifetime ∧ 300 < lifetime := by
  cases told with
  | none => exact Or.inl nofun
  | some lifetime =>
    rcases Int.lt_or_le 300 lifetime with hl | hl
    · exact Or.inr ⟨lifetime, rfl, hl⟩
    · refine Or.inl ?_
      rintro _ ⟨⟩
      exact hl

/-- What a token leaves in a cache that is granted and kept if it is to be. -/
structure Leaves (cache : TokenCache) (client token : String) (set : Instant) (told : Option Int)
    (after : TokenCache) : Prop where
  short : (∀ lifetime, told = some lifetime → lifetime ≤ 300) → after = cache
  long : ∀ lifetime, told = some lifetime → 300 < lifetime → ∀ other,
    after.entries.find? other =
      if other = client then some ⟨token, set + (lifetime - 300) * Instant.second⟩
      else cache.entries.find? other

/-- A token is set exactly if it is keepable. -/
theorem set_getD_cases (cache : TokenCache) (set : Instant) (client token : String)
    (told : Option Int) :
    (Keepable set told ∧ ∃ after, cache.set set client token (told.getD 0) = .ok after ∧
        Leaves cache client token set told after) ∨
      (¬ Keepable set told ∧
        ∃ crash, cache.set set client token (told.getD 0) = .error crash) := by
  cases told with
  | none =>
    exact Or.inl ⟨nofun, cache, TokenCache.set_of_le_margin cache set client token (by decide),
      ⟨fun _ => rfl, nofun⟩⟩
  | some lifetime =>
    rcases TokenDesk.set_cases cache set client token lifetime with
      ⟨hl, hs⟩ | ⟨hl, he, hs⟩ | ⟨hl, he, hs⟩
    · refine Or.inl ⟨?_, cache, hs, fun _ => rfl, ?_⟩
      · rintro _ ⟨⟩ hlong
        exact absurd hlong (Int.not_lt.mpr hl)
      · rintro _ ⟨⟩ hlong
        exact absurd hlong (Int.not_lt.mpr hl)
    · refine Or.inl ⟨?_, _, hs, ?_, ?_⟩
      · rintro _ ⟨⟩ -
        exact he
      · exact fun hshort => absurd hl (Int.not_lt.mpr (hshort lifetime rfl))
      · rintro _ ⟨⟩ - other
        exact Members.find?_insert ..
    · refine Or.inr ⟨fun hk => ?_, hs⟩
      rw [hk lifetime rfl hl] at he
      cases he

/-- A reply grants one token at most. -/
theorem Grants.unique {token other : String} {told otherTold : Option Int}
    (h : Grants reply token told) (ho : Grants reply other otherTold) :
    other = token ∧ otherTold = told := by
  have he := (grant_eq_ok_iff.mpr ho).symm.trans (grant_eq_ok_iff.mpr h)
  cases he
  exact ⟨rfl, rfl⟩

/-- A reply that grants nothing comes to a failure to authorise; a token that is granted is handed
    out, unless it is to be kept and has no end that can be told. -/
theorem settle_decided (desk : TokenDesk) (client : String) (reply : Except Failure Bytes) :
    ((∀ token told, ¬ Grants reply token told) ∧
        ∃ text, settle desk client reply = (.error (.failed (.auth text)), desk)) ∨
      ∃ token told, Grants reply token told ∧
        ((Keepable desk.now told ∧ ∃ cache,
            settle desk client reply = (.ok token, { desk with cache }) ∧
            Leaves desk.cache client token desk.now told cache) ∨
          (¬ Keepable desk.now told ∧
            ∃ crash, settle desk client reply = (.error (.crashed crash), desk))) := by
  rcases settle_cases desk client reply with
    ⟨failure, hg, he⟩ | ⟨token, told, hg, hset⟩
  · refine Or.inl ⟨fun token told hgrants => ?_, ?_⟩
    · cases hg.symm.trans (grant_eq_ok_iff.mpr hgrants)
    · obtain ⟨text, rfl⟩ := auth_of_grant_eq_error hg
      exact ⟨text, he⟩
  · refine Or.inr ⟨token, told, grant_eq_ok_iff.mp hg, ?_⟩
    rcases set_getD_cases desk.cache desk.now client token told with
      ⟨hk, after, hs, hleaves⟩ | ⟨hk, crash, hs⟩
    · rcases hset with ⟨cache, hcache, he⟩ | ⟨crash, hcrash, -⟩
      · cases hs.symm.trans hcache
        exact Or.inl ⟨hk, _, he, hleaves⟩
      · cases hs.symm.trans hcrash
    · rcases hset with ⟨cache, hcache, -⟩ | ⟨_, -, he⟩
      · cases hs.symm.trans hcache
      · exact Or.inr ⟨hk, _, he⟩

/-- A token that is granted is handed out and set, unless it is to be kept and cannot be. -/
theorem settle_of_grants (desk : TokenDesk) (client : String) {token : String} {told : Option Int}
    (hg : Grants reply token told) (hk : Keepable desk.now told) :
    ∃ cache, settle desk client reply = (.ok token, { desk with cache }) ∧
      Leaves desk.cache client token desk.now told cache := by
  rcases settle_decided desk client reply with
    ⟨hnone, -⟩ | ⟨other, otherTold, hgo, ⟨-, hs⟩ | ⟨hn, -⟩⟩
  · exact absurd hg (hnone token told)
  · obtain ⟨rfl, rfl⟩ := hg.unique hgo
    exact hs
  · rw [(hg.unique hgo).2] at hn
    exact absurd hk hn

/-- A reply ends an exchange with a token exactly if it grants that, and the token can be kept if it
    is to be. -/
theorem settle_eq_ok_iff {desk : TokenDesk} {client token : String} :
    (settle desk client reply).1 = .ok token ↔
      ∃ told, Grants reply token told ∧ Keepable desk.now told := by
  constructor
  · intro h
    rcases settle_decided desk client reply with
      ⟨-, _, hs⟩ | ⟨other, told, hg, ⟨hk, _, hs, -⟩ | ⟨-, _, hs⟩⟩
    · rw [hs] at h
      cases h
    · rw [hs] at h
      cases h
      exact ⟨told, hg, hk⟩
    · rw [hs] at h
      cases h
  · rintro ⟨told, hg, hk⟩
    obtain ⟨cache, hs, -⟩ := settle_of_grants desk client hg hk
    rw [hs]

/-- An exchange fails to authorise, or the token that is granted has no end that can be told. -/
theorem halt_of_settle {desk : TokenDesk} {client : String} {halt : Halt}
    (h : (settle desk client reply).1 = .error halt) : (∃ text, halt = .failed (.auth text)) ∨
      ∃ token told, Grants reply token told ∧ ¬ Keepable desk.now told := by
  rcases settle_decided desk client reply with
    ⟨-, text, hs⟩ | ⟨token, told, hg, ⟨-, _, hs, -⟩ | ⟨hk, _, hs⟩⟩
  · rw [hs] at h
    cases h
    exact Or.inl ⟨text, rfl⟩
  · rw [hs] at h
    cases h
  · exact Or.inr ⟨token, told, hg, hk⟩

/-- An exchange that does not end with a token leaves the desk as it is. -/
theorem settle_snd_of_ne_ok {desk : TokenDesk} {client : String}
    (h : ∀ token, (settle desk client reply).1 ≠ .ok token) :
    (settle desk client reply).2 = desk := by
  rcases settle_decided desk client reply with
    ⟨-, _, hs⟩ | ⟨token, _, -, ⟨-, _, hs, -⟩ | ⟨-, _, hs⟩⟩
  · rw [hs]
  · exact absurd (congrArg Prod.fst hs) (h token)
  · rw [hs]

/-- An exchange that ends with a token leaves what that leaves. -/
theorem leaves_of_settle {desk : TokenDesk} {client token : String} {told : Option Int}
    (h : (settle desk client reply).1 = .ok token) (hg : Grants reply token told) :
    Leaves desk.cache client token desk.now told (settle desk client reply).2.cache := by
  obtain ⟨_, hgo, hk⟩ := settle_eq_ok_iff.mp h
  obtain ⟨-, rfl⟩ := hg.unique hgo
  obtain ⟨cache, hs, hleaves⟩ := settle_of_grants desk client hg hk
  rw [hs]
  exact hleaves

/-- A token that is to be kept has not ended when it is set. -/
theorem lt_endOf {lifetime : Int} (h : 300 < lifetime) (now : Instant) :
    now < endOf now lifetime :=
  Int.lt_add_of_pos_right now (Int.mul_pos (Int.sub_pos_of_lt h) (by decide))

/-- A token that has been kept is live. -/
theorem Leaves.isLive {desk : TokenDesk} {client token : String} {lifetime : Int}
    {cache : TokenCache} (h : Leaves desk.cache client token desk.now (some lifetime) cache)
    (hl : 300 < lifetime) (ht : token ≠ "") : IsLive { desk with cache } client token :=
  ⟨_, (h.long lifetime rfl hl client).trans (if_pos rfl), ht, lt_endOf hl desk.now⟩

/-- Settling a reply leaves the entries of other clients as they are. -/
theorem settle_preserves (desk : TokenDesk) {client other : String} (h : other ≠ client)
    (reply : Except Failure Bytes) :
    (settle desk client reply).2.cache.entries.find? other = desk.cache.entries.find? other := by
  rcases settle_decided desk client reply with
    ⟨-, _, hs⟩ | ⟨_, told, -, ⟨-, _, hs, hleaves⟩ | ⟨-, _, hs⟩⟩
  · rw [hs]
  · rw [hs]
    rcases short_or_long told with hshort | ⟨lifetime, rfl, hlong⟩
    · rw [hleaves.short hshort]
    · exact (hleaves.long lifetime rfl hlong other).trans (if_neg h)
  · rw [hs]

end Exchange

/-- ONE request at most. An exchange of a fetcher that has a live token of the client hands that
    out and changes nothing. Any other exchange sends one request for a token, and its reply
    decides: the exchange ends with a token exactly if the reply grants it and, where the token is to
    be kept, its end can be told. Every other reply comes to a failure to authorise, which quotes a
    status that was refused and its body, or crashes if it is only the end that cannot be told. What
    does not end with a token leaves the cache as it was, and what does changes the entry of this
    client alone, and only if the token lives longer than 300 seconds. -/
theorem exchange_decided (fetcher : Fetcher) (domain : String) (client : Credentials)
    (reply : Except Failure Bytes) (arrival : Instant) :
    let result := (fetcher.exchange domain client reply arrival).1
    let after := (fetcher.exchange domain client reply arrival).2
    (∀ token, IsLive fetcher.desk client.id token → result = .ok token ∧ after = fetcher) ∧
    ((∀ token, ¬ IsLive fetcher.desk client.id token) →
      after.sent = fetcher.sent ++ [{
        method := "POST"
        url := Domain.bare domain ++ "/v1/oauth/regionalToken"
        headers := [⟨"content-type", "application/json"⟩, ⟨"authorization", client.basicHeader⟩]
        body := some (Text.Utf8.encode "\x7b\"grant_type\":\"client_credentials\"\x7d") }] ∧
      (∀ token, result = .ok token ↔ ∃ told, Grants reply token told ∧ Keepable arrival told) ∧
      (∀ halt, result = .error halt → (∃ text, halt = .failed (.auth text)) ∨
        ∃ token told, Grants reply token told ∧ ¬ Keepable arrival told) ∧
      (∀ status body, reply = .error (.fatalStatus status body) →
        result = .error (.failed (.auth ("token request returned non-2xx status: " ++
          toString status ++ ", body: " ++ body)))) ∧
      ((∀ token, result ≠ .ok token) → after.desk.cache = fetcher.desk.cache) ∧
      ∀ token told, result = .ok token → Grants reply token told →
        Leaves fetcher.desk.cache client.id token arrival told after.desk.cache) := by
  intro result after
  refine ⟨fun token hlive => ?_, fun hdead => ?_⟩
  · have he := @exchange_of_isLive fetcher domain client reply arrival token hlive
    exact ⟨congrArg Prod.fst he, congrArg Prod.snd he⟩
  · let desk := { fetcher.desk with now := arrival }
    have he := @exchange_of_not_isLive fetcher domain client reply arrival hdead
    have hresult : result = (settle desk client.id reply).1 := congrArg Prod.fst he
    have hafter : after =
        ⟨(settle desk client.id reply).2, fetcher.sent ++ [request domain client]⟩ :=
      congrArg Prod.snd he
    rw [hresult, hafter]
    refine ⟨rfl, fun token => settle_eq_ok_iff, fun halt => halt_of_settle, ?_, ?_, ?_⟩
    · rintro status body rfl
      rfl
    · intro hn
      have hsame : (settle desk client.id reply).2 = desk := settle_snd_of_ne_ok hn
      show (settle desk client.id reply).2.cache = fetcher.desk.cache
      rw [hsame]
    · exact fun token told => leaves_of_settle

/-- A token whose time has passed is exchanged for one that comes in an array and lives 301 seconds.
    That is kept for a second, and the token of another client stays. -/
theorem exchange_decided_array :
    let client : Credentials := ⟨"id", "secret"⟩
    let fetcher : Fetcher := ⟨⟨⟨[("id", ⟨"old", 5⟩), ("other", ⟨"two", 9⟩)]⟩, 7, 1⟩, []⟩
    let reply : Except Failure Bytes := .ok (Text.Utf8.encode "[\"one\",null,301]")
    let made := fetcher.exchange "http://h/" client reply 8
    (∀ token, ¬ IsLive fetcher.desk "id" token) ∧ made.1 = .ok "one" ∧
      made.2.sent.map (·.url) = ["http://h/v1/oauth/regionalToken"] ∧
      made.2.desk.cache.entries.find? "id" = some ⟨"one", 8 + Instant.second⟩ ∧
      made.2.desk.cache.entries.find? "other" = some ⟨"two", 9⟩ := by
  intro client fetcher reply made
  have hdead : ∀ token, ¬ IsLive fetcher.desk "id" token :=
    lookup_eq_none_iff.mp (by decide)
  have hgrants : Grants reply "one" (some 301) :=
    ⟨_, ⟨some "one", none, some 301⟩, rfl, by decide +kernel, rfl, by decide, rfl⟩
  have hkeepable : Keepable 8 (some 301) := by
    rintro _ ⟨⟩ -
    decide
  obtain ⟨hsent, hok, -, -, -, hkept⟩ :=
    (exchange_decided fetcher "http://h/" client reply 8).2 hdead
  have hone : made.1 = .ok "one" := (hok "one").mpr ⟨_, hgrants, hkeepable⟩
  have hentry := (hkept "one" _ hone hgrants).long 301 rfl (by decide)
  refine ⟨hdead, hone, ?_, hentry "id", hentry "other"⟩
  rw [hsent]
  decide

end CallTransfer.TokenExchange
