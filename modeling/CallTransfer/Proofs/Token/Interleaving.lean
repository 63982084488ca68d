import CallTransfer.Proofs.Token.Exchange
import CallTransfer.Proofs.Token.History

/-!
    Exchanges that INTERLEAVE. Any number of them share a desk; each looks its client up and, if it
    finds nothing, waits until its reply is there. The phases of different exchanges, the dropping
    of tokens and the moves of the clock come in any order. What happens is put in a log, from which
    it can be told where a token comes from that is handed out.
-/

namespace CallTransfer.TokenExchange

open TokenDesk (Noted Remembers lastOn bearsOn hasEnd)

/-! ### The two phases -/

/-- What a reply grants. -/
def grant : Except Failure Bytes → Except Failure (String × Option Int)
  | .error failure => .error (refusal failure)
  | .ok body => granted body

/-- What becomes of an exchange whose reply is there, and the desk after it. -/
def settle (desk : TokenDesk) (client : String) :
    Except Failure Bytes → Except Halt String × TokenDesk
  | .error failure => (.error (.failed (refusal failure)), desk)
  | .ok body =>
    match complete desk client body with
    | .error halt => (.error halt, desk)
    | .ok (token, after) => (.ok token, after)

section Issue
variable {σ : Type} {fetch : Http.Request → Act σ Bytes} {get : σ → TokenDesk}
  {set : TokenDesk → σ → σ} {domain : String} {client : Credentials} {s t : σ}

/-- An exchange that finds nothing asks for a reply, and settles it at the desk as that is by
    then. -/
theorem issue_eq_settle {reply : Except Failure Bytes} (hset : ∀ u, set (get u) u = u)
    (hl : lookup (get s) client.id = none)
    (hf : fetch (request domain client) s = (reply.mapError .failed, t)) :
    issue fetch get set domain client s =
      ((settle (get t) client.id reply).1, set (settle (get t) client.id reply).2 t) := by
  rw [issue_eq_ask hl]
  cases reply with
  | error failure =>
    have hr := Act.run_rewording_failed hf refusal
    simp only [ask, hr, settle, hset]
  | ok body =>
    have hr := Act.run_rewording_ok hf refusal
    cases hc : complete (get t) client.id body with
    | error halt => simp only [ask, hr, settle, hc, hset]
    | ok found => simp only [ask, hr, settle, hc]

/-- A crash on the way to a reply is that of the exchange. -/
theorem issue_of_crash {crash : Crash} (hl : lookup (get s) client.id = none)
    (hf : fetch (request domain client) s = (.error (.crashed crash), t)) :
    issue fetch get set domain client s = (.error (.crashed crash), t) := by
  rw [issue_eq_ask hl]
  simp only [ask, Act.rewording, hf]

end Issue

/-- A reply grants nothing, or its token is handed out and set, or setting the token crashes. -/
theorem settle_cases (desk : TokenDesk) (client : String) (reply : Except Failure Bytes) :
    (∃ failure, grant reply = .error failure ∧
      settle desk client reply = (.error (.failed failure), desk)) ∨
    ∃ token told, grant reply = .ok (token, told) ∧
      ((∃ cache, desk.cache.set desk.now client token (told.getD 0) = .ok cache ∧
        settle desk client reply = (.ok token, { desk with cache })) ∨
      ∃ crash, desk.cache.set desk.now client token (told.getD 0) = .error crash ∧
        settle desk client reply = (.error (.crashed crash), desk)) := by
  cases reply with
  | error failure => exact Or.inl ⟨refusal failure, rfl, rfl⟩
  | ok body =>
    simp only [grant, settle, complete]
    cases granted body with
    | error failure => exact Or.inl ⟨failure, rfl, rfl⟩
    | ok found =>
      obtain ⟨token, told⟩ := found
      refine Or.inr ⟨token, told, rfl, ?_⟩
      cases hs : desk.cache.set desk.now client token (told.getD 0) with
      | ok cache => exact Or.inl ⟨cache, rfl, by simp only [hs]⟩
      | error crash => exact Or.inr ⟨crash, rfl, by simp only [hs]⟩

/-! ### The office -/

/-- What has happened at an office. -/
inductive Event where
  | lookedUp (client : String) (found : Option String)
  | completed (client : String) (reply : Except Failure Bytes) (result : Except Halt String)
  | cleared (client : String)

/-- An event, and the time on the clock. -/
abbrev Moment := Instant × Event

/-- A desk, the clients of the exchanges that wait for a reply, and what has happened. -/
structure Office where
  desk : TokenDesk
  waiting : List String
  log : List Moment

/-- What can happen next. A reply comes for any of the exchanges that wait, by its place. -/
inductive Move where
  | lookUp (client : String)
  | reply (place : Nat) (reply : Except Failure Bytes)
  | clear (client : String)
  | advance (ms ns : Int)

namespace Office

/-- An office with an empty desk at which nobody waits. -/
def openedAt (now : Instant) : Office := ⟨.openedAt now, [], []⟩

/-- The office after a move. What crashes leaves the desk as it is. -/
def step (office : Office) : Move → Office
  | .lookUp client =>
    let found := lookup office.desk client
    ⟨office.desk, if found.isNone then office.waiting ++ [client] else office.waiting,
      office.log ++ [(office.desk.now, .lookedUp client found)]⟩
  | .reply place reply =>
    match office.waiting[place]? with
    | none => office
    | some client =>
      let (result, after) := settle office.desk client reply
      ⟨after, office.waiting.eraseIdx place,
        office.log ++ [(office.desk.now, .completed client reply result)]⟩
  | .clear client =>
    ⟨{ office.desk with cache := office.desk.cache.clear client }, office.waiting,
      office.log ++ [(office.desk.now, .cleared client)]⟩
  | .advance ms ns => { office with desk := (office.desk.tryStep (.advance ms ns)).2 }

/-- The office after moves. -/
def run (office : Office) (moves : List Move) : Office := moves.foldl step office

end Office

namespace Event

/-- The client whose exchange ends with an event, and the token that it is given. -/
def returned : Event → Option (String × String)
  | .lookedUp client (some token) => some (client, token)
  | .completed client _ (.ok token) => some (client, token)
  | _ => none

/-- What an event does at the desk. A reply that grants nothing does as little as a look-up. -/
def use : Event → TokenDesk.Use
  | .lookedUp client _ => .get client
  | .completed client reply _ =>
    match grant reply with
    | .ok (token, lifetime) => .set client token (lifetime.getD 0)
    | .error _ => .get client
  | .cleared client => .clear client

/-- Whether an event is the reply to an exchange of a client whose token is then kept. -/
def Keeps (client : String) (event : Event) : Prop :=
  ∃ body token answer lifetime, event = .completed client (.ok body) (.ok token) ∧
    TokenResponse.decode? body = some answer ∧ answer.expiresIn = some lifetime ∧ 300 < lifetime

end Event

/-- A moment as a use of the desk. -/
def noted (m : Moment) : Noted := (m.1, m.2.use)

/-! ### What a log accounts for -/

/-- What an event owes to those before it: a look-up finds what these have left, and a completion
    has the result of its own reply. -/
def Justified (older : List Moment) : Moment → Prop
  | (now, .lookedUp client found) =>
    ∃ cache, Remembers cache (older.map noted) ∧ found = cache.get? now client
  | (now, .completed client reply result) =>
    ∃ desk : TokenDesk, desk.now = now ∧ result = (settle desk client reply).1
  | (_, .cleared _) => True

/-- A moment of a log with one more is that one, or a moment of the log. -/
theorem concat_split {log older newer : List Moment} {m m' : Moment}
    (h : log ++ [m] = older ++ m' :: newer) :
    (older = log ∧ m' = m) ∨ ∃ rest, log = older ++ m' :: rest := by
  rcases List.eq_nil_or_concat newer with rfl | ⟨rest, last, rfl⟩
  · obtain ⟨rfl, he⟩ := List.append_inj' h rfl
    cases he
    exact Or.inl ⟨rfl, rfl⟩
  · rw [List.concat_eq_append, ← List.cons_append, ← List.append_assoc] at h
    exact Or.inr ⟨rest, (List.append_inj' h rfl).1⟩

/-- The invariant of an office. -/
structure Sound (office : Office) : Prop where
  remembers : Remembers office.desk.cache (office.log.map noted)
  justified : ∀ older m newer, office.log = older ++ m :: newer → Justified older m

namespace Sound
variable {office : Office}

theorem openedAt (now : Instant) : Sound (.openedAt now) where
  remembers := Remembers.empty
  justified := by
    intro older m newer h
    cases older with
    | nil => cases h
    | cons _ _ => cases h

/-- An event that is put in the log needs to be justified itself, as those before it are. -/
theorem note (h : Sound office) {desk : TokenDesk} {waiting : List String} {m : Moment}
    (hr : Remembers desk.cache (office.log.map noted ++ [noted m]))
    (hm : Justified office.log m) : Sound ⟨desk, waiting, office.log ++ [m]⟩ where
  remembers := by
    rw [List.map_append]
    exact hr
  justified := by
    intro older m' newer he
    rcases concat_split he with ⟨rfl, rfl⟩ | ⟨rest, hl⟩
    · exact hm
    · exact h.justified older m' rest hl

/-- A reply leaves at the desk what its event says. -/
theorem remembers_settle (h : Sound office) (client : String) (reply : Except Failure Bytes) :
    Remembers (settle office.desk client reply).2.cache (office.log.map noted ++
      [noted (office.desk.now, .completed client reply (settle office.desk client reply).1)]) := by
  rcases settle_cases office.desk client reply with
    ⟨failure, hg, he⟩ | ⟨token, told, hg, ⟨cache, hs, he⟩ | ⟨crash, hs, he⟩⟩
  · rw [he, noted, Event.use, hg]
    exact h.remembers.idle fun _ => rfl
  · rw [he, noted, Event.use, hg]
    exact h.remembers.set hs
  · rw [he, noted, Event.use, hg]
    exact h.remembers.crash hs

theorem advance (h : Sound office) (ms ns : Int) : Sound (office.step (.advance ms ns)) where
  remembers := by
    have hr := TokenDesk.remembers_tryStep h.remembers (.advance ms ns)
    rw [TokenDesk.noted, List.append_nil] at hr
    exact hr
  justified := h.justified

/-- What one move preserves. -/
theorem step (h : Sound office) (move : Move) : Sound (office.step move) := by
  cases move with
  | lookUp client =>
    exact h.note (h.remembers.idle fun _ => rfl) ⟨office.desk.cache, h.remembers, rfl⟩
  | reply place reply =>
    rw [Office.step]
    cases office.waiting[place]? with
    | none => exact h
    | some client => exact h.note (h.remembers_settle client reply) ⟨office.desk, rfl, rfl⟩
  | clear client => exact h.note (h.remembers.clear client) trivial
  | advance ms ns => exact h.advance ms ns

/-- What a whole run preserves. -/
theorem run (h : Sound office) (moves : List Move) : Sound (office.run moves) := by
  induction moves generalizing office with
  | nil => exact h
  | cons move moves ih => exact ih (h.step move)

theorem exists_of_mem (h : Sound office) {m : Moment} (hm : m ∈ office.log) :
    ∃ older, Justified older m := by
  obtain ⟨older, newer, hl⟩ := List.append_of_mem hm
  exact ⟨older, h.justified older m newer hl⟩

end Sound

/-! ### Where tokens come from -/

section Origin
variable {older : List Moment} {now : Instant} {client token : String}

theorem grant_of_use {event : Event} {lifetime : Int}
    (h : event.use = .set client token lifetime) :
    ∃ reply result told, event = .completed client reply result ∧
      grant reply = .ok (token, told) ∧ lifetime = told.getD 0 := by
  cases event with
  | lookedUp other found => cases h
  | completed other reply result =>
    rw [Event.use] at h
    split at h
    · rename_i other told hg
      cases h
      exact ⟨reply, result, told, rfl, hg, rfl⟩
    · cases h
  | cleared other => cases h

/-- A token that an exchange ends with is one that its reply grants. -/
theorem grant_of_settle {desk : TokenDesk} {reply : Except Failure Bytes}
    (h : (settle desk client reply).1 = .ok token) : ∃ told cache,
      grant reply = .ok (token, told) ∧
        desk.cache.set desk.now client token (told.getD 0) = .ok cache := by
  rcases settle_cases desk client reply with
    ⟨_, -, he⟩ | ⟨found, told, hg, ⟨cache, hs, he⟩ | ⟨_, -, he⟩⟩
  · rw [he] at h
    cases h
  · rw [he] at h
    cases h
    exact ⟨told, cache, hg, hs⟩
  · rw [he] at h
    cases h

/-- A reply that grants a token ends the exchange with it, unless setting the token crashes. -/
theorem settle_of_grant {desk : TokenDesk} {cache : TokenCache} {reply : Except Failure Bytes}
    {told : Option Int} (hg : grant reply = .ok (token, told))
    (hs : desk.cache.set desk.now client token (told.getD 0) = .ok cache) :
    (settle desk client reply).1 = .ok token := by
  rcases settle_cases desk client reply with
    ⟨_, hn, -⟩ | ⟨found, told', hg', ⟨_, -, he⟩ | ⟨_, hc, -⟩⟩
  · cases hg.symm.trans hn
  · cases hg.symm.trans hg'
    rw [he]
  · cases hg.symm.trans hg'
    cases hs.symm.trans hc

/-- What a reply grants stands in its body. -/
theorem answer_of_grant {reply : Except Failure Bytes} {told : Option Int}
    (h : grant reply = .ok (token, told)) : ∃ body answer, reply = .ok body ∧
      TokenResponse.decode? body = some answer ∧ answer.accessToken = some token ∧ token ≠ "" ∧
        answer.expiresIn = told := by
  cases reply with
  | error failure => cases h
  | ok body =>
    obtain ⟨answer, ha⟩ := granted_eq_ok_iff.mp h
    exact ⟨body, answer, rfl, ha⟩

/-- A reply whose token is kept bears on its client. -/
theorem bearsOn_of_keeps {m : Moment} (hj : Justified older m) (hk : m.2.Keeps client) :
    bearsOn client (noted m) = true := by
  obtain ⟨t, event⟩ := m
  obtain ⟨body, token, answer, lifetime, rfl, hd, hl, hm⟩ := hk
  obtain ⟨desk, rfl, hr⟩ := hj
  obtain ⟨told, cache, hg, hs⟩ := grant_of_settle hr.symm
  obtain ⟨_, _, hb, hd', -, -, rfl⟩ := answer_of_grant hg
  cases hb
  cases hd.symm.trans hd'
  rw [hl] at hg hs
  have he : hasEnd desk.now lifetime = true := by
    rcases TokenDesk.set_cases desk.cache desk.now client token lifetime with
      ⟨hn, -⟩ | ⟨-, he, -⟩ | ⟨-, -, _, hc⟩
    · exact absurd hm (Int.not_lt.mpr hn)
    · exact he
    · cases hc.symm.trans hs
  rw [noted, Event.use, hg]
  exact Bool.and_eq_true_iff.mpr ⟨beq_self_eq_true client,
    Bool.and_eq_true_iff.mpr ⟨decide_eq_true hm, he⟩⟩

/-- The drop of a token bears on its client. -/
theorem bearsOn_of_cleared {m : Moment} (h : m.2 = .cleared client) :
    bearsOn client (noted m) = true := by
  obtain ⟨t, event⟩ := m
  cases h
  exact beq_self_eq_true client

/-- A moment that leaves an entry is the reply that the token of the entry stands in. -/
theorem reply_of_bearsOn {m : Moment} {set : Instant} {lifetime : Int} (hj : Justified older m)
    (hu : noted m = (set, .set client token lifetime)) (hb : bearsOn client (noted m) = true) :
    ∃ body answer, m = (set, .completed client (.ok body) (.ok token)) ∧
      TokenResponse.decode? body = some answer ∧ answer.accessToken = some token ∧ token ≠ "" ∧
        answer.expiresIn = some lifetime ∧ 300 < lifetime := by
  obtain ⟨t, event⟩ := m
  obtain ⟨rfl, he⟩ := Prod.mk.inj hu
  obtain ⟨reply, result, told, rfl, hg, rfl⟩ := grant_of_use he
  obtain ⟨body, answer, rfl, hd, ha, hn, rfl⟩ := answer_of_grant hg
  rw [hu, bearsOn, beq_self_eq_true, Bool.true_and] at hb
  obtain ⟨hm, hx⟩ := Bool.and_eq_true_iff.mp hb
  have hl : 300 < answer.expiresIn.getD 0 := of_decide_eq_true hm
  -- The desk of that time is not at hand, but the same token is set there without a crash.
  obtain ⟨desk, rfl, rfl⟩ := hj
  have hs := @TokenDesk.set_of_hasEnd desk.cache desk.now client token _ hl hx
  rw [settle_of_grant hg hs]
  refine ⟨body, answer, rfl, hd, ha, hn, ?_, hl⟩
  cases he : answer.expiresIn with
  | none =>
    rw [he] at hl
    exact absurd hl (by decide)
  | some lifetime => rfl

/-- The last use that bears on a client, if it is a set, is a reply whose token is kept, and what is
    behind it neither drops the token nor keeps another one. -/
theorem reply_of_lastOn {log : List Moment} {set : Instant} {lifetime : Int}
    (known : ∀ m ∈ log, ∃ older, Justified older m)
    (h : lastOn client (log.map noted) = some (set, .set client token lifetime)) :
    ∃ before between body answer,
      log = before ++ (set, .completed client (.ok body) (.ok token)) :: between ∧
        TokenResponse.decode? body = some answer ∧ answer.accessToken = some token ∧ token ≠ "" ∧
        answer.expiresIn = some lifetime ∧ 300 < lifetime ∧
        ∀ m ∈ between, m.2 ≠ .cleared client ∧ ¬ m.2.Keeps client := by
  obtain ⟨past, rest, hp, hb, ha⟩ := TokenDesk.lastOn_eq_some_iff.mp h
  obtain ⟨before, tail, rfl, rfl, ht⟩ := List.map_eq_append_iff.mp hp
  obtain ⟨m, between, rfl, hm, rfl⟩ := List.map_eq_cons_iff.mp ht
  obtain ⟨_, hj⟩ := known m (List.mem_append_right _ (List.mem_cons_self ..))
  obtain ⟨body, answer, rfl, hd, htok, hne, hlife, h300⟩ :=
    reply_of_bearsOn hj hm (by rw [hm]; exact hb)
  refine ⟨before, between, body, answer, rfl, hd, htok, hne, hlife, h300, fun m hm => ?_⟩
  have hn := ha _ (List.mem_map_of_mem hm)
  constructor
  · intro he
    rw [bearsOn_of_cleared he] at hn
    cases hn
  · intro hk
    obtain ⟨_, hj⟩ := known m (List.mem_append_right _ (List.mem_cons_of_mem _ hm))
    rw [bearsOn_of_keeps hj hk] at hn
    cases hn

end Origin

/-- A token comes from its OWN client. Whenever an exchange ends with a token, either the token
    stands in the exchange's own reply, or its look-up has found the token of an older reply to an
    exchange of the same client. Of such a reply the lifetime is above 300 seconds, the look-up is
    made more than 300 seconds before its end, and in between the client's token is not dropped and
    no other reply of the client is kept. -/
theorem returned_token_origin (start : Instant) (moves : List Move) {older newer : List Moment}
    {now : Instant} {event : Event} {client token : String}
    (hl : ((Office.openedAt start).run moves).log = older ++ (now, event) :: newer)
    (hr : event.returned = some (client, token)) :
    (∃ body answer, event = .completed client (.ok body) (.ok token) ∧
      TokenResponse.decode? body = some answer ∧ answer.accessToken = some token ∧ token ≠ "") ∨
    (event = .lookedUp client (some token) ∧ ∃ before between t body answer lifetime,
      older = before ++ (t, .completed client (.ok body) (.ok token)) :: between ∧
        TokenResponse.decode? body = some answer ∧ answer.accessToken = some token ∧ token ≠ "" ∧
        answer.expiresIn = some lifetime ∧ 300 < lifetime ∧
        now < t + (lifetime - 300) * Instant.second ∧
        ∀ m ∈ between, m.2 ≠ .cleared client ∧ ¬ m.2.Keeps client) := by
  have hs : Sound ((Office.openedAt start).run moves) := (Sound.openedAt start).run moves
  have hj : Justified older (now, event) := hs.justified older (now, event) newer hl
  cases event with
  | lookedUp other found =>
    cases found with
    | none => cases hr
    | some found =>
      cases hr
      right
      have known : ∀ m ∈ older, ∃ older, Justified older m := fun m hm =>
        hs.exists_of_mem (hl ▸ List.mem_append_left _ hm)
      obtain ⟨cache, hc, hf⟩ := hj
      obtain ⟨t, lifetime, hlast, -, hx⟩ := hc.get?_eq_some_iff.mp hf.symm
      obtain ⟨before, between, body, answer, ho, hd, ha, hn, he, hm, hb⟩ :=
        reply_of_lastOn known hlast
      exact ⟨rfl, before, between, t, body, answer, lifetime, ho, hd, ha, hn, he, hm, hx, hb⟩
  | completed other reply result =>
    cases result with
    | error halt => cases hr
    | ok found =>
      cases hr
      left
      obtain ⟨desk, -, hres⟩ := hj
      obtain ⟨told, cache, hg, -⟩ := grant_of_settle hres.symm
      obtain ⟨body, answer, rfl, hd, ha, hn, -⟩ := answer_of_grant hg
      exact ⟨body, answer, rfl, hd, ha, hn⟩
  | cleared other => cases hr

/-- Two exchanges of a client that overlap, the later one of which gets its reply first, and a third
    one that is made within the last second in which the token is handed out. -/
def overlapping : List Move := [
  .lookUp "c", .lookUp "c",
  .reply 1 (.ok (Text.Utf8.encode "\x7b\"access_token\":\"one\",\"expires_in\":3600\x7d")),
  .reply 0 (.ok (Text.Utf8.encode "\x7b\"access_token\":\"two\",\"expires_in\":3600\x7d")),
  .advance 3299999 0, .lookUp "c"]

/-- The third exchange is given the token of the reply that came last. -/
theorem returned_token_origin_overlapping : ∃ older now,
    ((Office.openedAt 0).run overlapping).log = older ++ [(now, .lookedUp "c" (some "two"))] ∧
      ∃ before between t body answer lifetime,
        older = before ++ (t, .completed "c" (.ok body) (.ok "two")) :: between ∧
          TokenResponse.decode? body = some answer ∧ answer.accessToken = some "two" ∧
          answer.expiresIn = some lifetime ∧ 300 < lifetime ∧
          now < t + (lifetime - 300) * Instant.second ∧
          ∀ m ∈ between, m.2 ≠ .cleared "c" ∧ ¬ m.2.Keeps "c" := by
  have hl : ((Office.openedAt 0).run overlapping).log =
      ((Office.openedAt 0).run overlapping).log.take 4 ++
        (3299999 * Instant.millisecond, .lookedUp "c" (some "two")) :: [] := by rfl
  rcases returned_token_origin 0 overlapping hl rfl with
    ⟨_, _, he, -⟩ | ⟨-, before, between, t, body, answer, lifetime, ho, hd, ha, -, he, hm, hx, hb⟩
  · cases he
  · exact ⟨_, _, hl, before, between, t, body, answer, lifetime, ho, hd, ha, he, hm, hx, hb⟩

end CallTransfer.TokenExchange
