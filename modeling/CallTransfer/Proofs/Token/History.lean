import CallTransfer.Token.Desk

/-!
    What a desk REMEMBERS. The history of a desk are its uses, each with the time that its clock
    showed; of these, the last one that bears on a client decides alone what the client finds. A use
    bears on its own client if it drops the token, or sets one that lives long enough and whose end
    can be told; sets of any other token do not count, so that an older one stays.
-/

namespace CallTransfer.TokenDesk

/-- The desk after steps, of which one that crashes does nothing. -/
def run (desk : TokenDesk) (steps : List Step) : TokenDesk :=
  steps.foldl (fun desk s => (desk.tryStep s).2) desk

/-- The time on a clock after a step. A clock is not put to an instant that no calendar holds. -/
def tick (now : Instant) : Step → Instant
  | .use _ _ => now
  | .advance ms ns =>
    let next := now + (ms * Instant.millisecond + ns)
    if Instant.inCalendar next then next else now

/-- The time on a clock after steps. -/
def clock (start : Instant) (steps : List Step) : Instant := steps.foldl tick start

/-- A use of a desk, and the time on its clock. -/
abbrev Noted := Instant × Use

/-- What a step adds to a history. -/
def noted (now : Instant) : Step → List Noted
  | .use _ what => [(now, what)]
  | .advance _ _ => []

/-- The uses among steps, each with the time at which it is made. -/
def history (start : Instant) : List Step → List Noted
  | [] => []
  | s :: steps => noted start s ++ history (tick start s) steps

/-- The instant from which a token is given up. -/
def endOf (set : Instant) (lifetime : Int) : Instant := set + (lifetime - 300) * Instant.second

/-- Whether the end of a token can be told: 64 bits hold its lifetime in milliseconds, and the
    calendar the instant. -/
def hasEnd (set : Instant) (lifetime : Int) : Bool :=
  lifetime - 300 ≤ 9223372036854775 && Instant.inCalendar (endOf set lifetime)

/-- Whether a use bears on what a client finds. -/
def bearsOn (client : String) : Noted → Bool
  | (_, .clear other) => other == client
  | (now, .set other _ lifetime) => other == client && (300 < lifetime && hasEnd now lifetime)
  | (_, .get _) => false
  | (_, .copy) => false

/-- The last use that bears on what a client finds. -/
def lastOn (client : String) (past : List Noted) : Option Noted :=
  (past.filter (bearsOn client)).getLast?

/-! ### Setting a token -/

section Set
variable {cache : TokenCache} {now : Instant} {client token : String} {lifetime : Int}

theorem expiry_of_hasEnd (h : hasEnd now lifetime = true) :
    TokenCache.expiry now lifetime = .ok (endOf now lifetime) := by
  obtain ⟨hl, hc⟩ := Bool.and_eq_true_iff.mp h
  have hx : ¬ TokenCache.maxSeconds < lifetime - TokenCache.margin :=
    Int.not_lt.mpr (of_decide_eq_true hl)
  rw [TokenCache.expiry, if_neg hx]
  exact Instant.later_eq_ok_iff.mpr ⟨rfl, hc⟩

/-- An end cannot be told because of the lifetime or because of the calendar. -/
theorem expiry_eq_error_iff {crash : Crash} :
    TokenCache.expiry now lifetime = .error crash ↔
      crash = .lifetime ∧ 9223372036854775 < lifetime - 300 ∨
        crash = .instant ∧ lifetime - 300 ≤ 9223372036854775 ∧
          Instant.inCalendar (endOf now lifetime) = false := by
  rw [TokenCache.expiry]
  by_cases hx : TokenCache.maxSeconds < lifetime - TokenCache.margin
  · have hn : ¬ lifetime - 300 ≤ 9223372036854775 := Int.not_le.mpr hx
    rw [if_pos hx]
    constructor
    · intro hc
      cases hc
      exact Or.inl ⟨rfl, hx⟩
    · rintro (⟨rfl, -⟩ | ⟨-, hl, -⟩)
      · rfl
      · exact absurd hl hn
  · have hn : ¬ 9223372036854775 < lifetime - 300 := hx
    rw [if_neg hx, Instant.later_eq_error_iff]
    constructor
    · rintro ⟨rfl, hc⟩
      exact Or.inr ⟨rfl, Int.not_lt.mp hn, hc⟩
    · rintro (⟨-, hl⟩ | ⟨rfl, -, hc⟩)
      · exact absurd hl hn
      · exact ⟨rfl, hc⟩

theorem set_of_margin_lt (h : 300 < lifetime) : cache.set now client token lifetime =
    (TokenCache.expiry now lifetime).map fun expiry =>
      ⟨cache.entries.insert client ⟨token, expiry⟩⟩ :=
  if_neg (Int.not_le.mpr h)

/-- A token is kept if it lives long enough and its end can be told. -/
theorem set_of_hasEnd (h : 300 < lifetime) (he : hasEnd now lifetime = true) :
    cache.set now client token lifetime =
      .ok ⟨cache.entries.insert client ⟨token, endOf now lifetime⟩⟩ := by
  rw [set_of_margin_lt h, expiry_of_hasEnd he]
  rfl

/-- Setting a token crashes where it lives long enough and has no end that can be told. -/
theorem set_eq_error_iff {crash : Crash} :
    cache.set now client token lifetime = .error crash ↔
      300 < lifetime ∧ (crash = .lifetime ∧ 9223372036854775 < lifetime - 300 ∨
        crash = .instant ∧ lifetime - 300 ≤ 9223372036854775 ∧
          Instant.inCalendar (endOf now lifetime) = false) := by
  rw [← expiry_eq_error_iff]
  by_cases h : 300 < lifetime
  · rw [set_of_margin_lt h]
    cases TokenCache.expiry now lifetime with
    | ok expiry => exact ⟨nofun, nofun⟩
    | error c =>
      constructor
      · intro hc
        cases hc
        exact ⟨h, rfl⟩
      · rintro ⟨-, hc⟩
        cases hc
        rfl
  · rw [TokenCache.set_of_le_margin cache now client token (Int.not_lt.mp h)]
    constructor
    · intro he
      cases he
    · intro he
      exact absurd he.1 h

/-- Setting a token leaves the entries as they are, or puts in its entry, or crashes. -/
theorem set_cases (cache : TokenCache) (now : Instant) (client token : String) (lifetime : Int) :
    (lifetime ≤ 300 ∧ cache.set now client token lifetime = .ok cache) ∨
      (300 < lifetime ∧ hasEnd now lifetime = true ∧ cache.set now client token lifetime =
        .ok ⟨cache.entries.insert client ⟨token, endOf now lifetime⟩⟩) ∨
      (300 < lifetime ∧ hasEnd now lifetime = false ∧
        ∃ crash, cache.set now client token lifetime = .error crash) := by
  rcases Int.lt_or_le 300 lifetime with h | h
  · cases he : hasEnd now lifetime with
    | true => exact Or.inr (Or.inl ⟨h, rfl, set_of_hasEnd h he⟩)
    | false =>
      refine Or.inr (Or.inr ⟨h, rfl, ?_⟩)
      by_cases hl : lifetime - 300 ≤ 9223372036854775
      · have hc : Instant.inCalendar (endOf now lifetime) = false := by
          rw [hasEnd, decide_eq_true hl, Bool.true_and] at he
          exact he
        exact ⟨.instant, set_eq_error_iff.mpr ⟨h, Or.inr ⟨rfl, hl, hc⟩⟩⟩
      · exact ⟨.lifetime, set_eq_error_iff.mpr ⟨h, Or.inl ⟨rfl, Int.not_le.mp hl⟩⟩⟩
  · exact Or.inl ⟨h, TokenCache.set_of_le_margin cache now client token h⟩

end Set

/-! ### The last use on a client -/

section Last
variable {client : String} {past : List Noted}

theorem lastOn_concat (n : Noted) :
    lastOn client (past ++ [n]) = if bearsOn client n then some n else lastOn client past := by
  rw [lastOn, List.filter_append]
  cases h : bearsOn client n with
  | true => rw [List.filter_cons_of_pos h, List.filter_nil, List.getLast?_concat, if_pos rfl]
  | false =>
    rw [List.filter_cons_of_neg (by rw [h]; exact Bool.false_ne_true), List.filter_nil,
      List.append_nil, if_neg Bool.false_ne_true, lastOn]

/-- A use is the last one exactly if it bears on the client and none after it does. -/
theorem lastOn_eq_some_iff {n : Noted} :
    lastOn client past = some n ↔ ∃ before after, past = before ++ n :: after ∧
      bearsOn client n = true ∧ ∀ m ∈ after, bearsOn client m = false := by
  rw [lastOn, List.getLast?_eq_some_iff]
  constructor
  · rintro ⟨older, h⟩
    obtain ⟨before, rest, rfl, -, hr⟩ := List.filter_eq_append_iff.mp h
    obtain ⟨skipped, after, rfl, -, hn, ha⟩ := List.filter_eq_cons_iff.mp hr
    refine ⟨before ++ skipped, after, by rw [List.append_assoc], hn, fun m hm => ?_⟩
    exact Bool.eq_false_iff.mpr (List.filter_eq_nil_iff.mp ha m hm)
  · rintro ⟨before, after, rfl, hn, ha⟩
    have hnil : after.filter (bearsOn client) = [] :=
      List.filter_eq_nil_iff.mpr fun m hm => Bool.eq_false_iff.mp (ha m hm)
    exact ⟨before.filter (bearsOn client),
      by rw [List.filter_append, List.filter_cons_of_pos hn, hnil]⟩

end Last

/-! ### What a cache remembers -/

/-- The entry that a use leaves. -/
def entryOf : Noted → Option TokenEntry
  | (now, .set _ token lifetime) => some ⟨token, endOf now lifetime⟩
  | _ => none

/-- Whether the entries are those that the last uses have left. -/
def Remembers (cache : TokenCache) (past : List Noted) : Prop :=
  ∀ client, cache.entries.find? client = (lastOn client past).bind entryOf

namespace Remembers
variable {cache after : TokenCache} {past : List Noted} {now : Instant}

theorem empty : Remembers TokenCache.empty [] := fun _ => rfl

/-- A use that bears on nobody is not seen. -/
theorem idle {n : Noted} (h : Remembers cache past) (hn : ∀ client, bearsOn client n = false) :
    Remembers cache (past ++ [n]) := by
  intro client
  rw [lastOn_concat, hn client, if_neg Bool.false_ne_true]
  exact h client

theorem clear (h : Remembers cache past) (client : String) :
    Remembers (cache.clear client) (past ++ [(now, .clear client)]) := by
  intro other
  rw [TokenCache.clear, Members.find?_erase, lastOn_concat, bearsOn]
  by_cases ho : other = client
  · rw [if_pos ho, if_pos (beq_iff_eq.mpr ho.symm)]
    rfl
  · rw [if_neg ho, if_neg fun hb => ho (beq_iff_eq.mp hb).symm]
    exact h other

/-- A set either leaves its entry, or does not bear on anybody. -/
theorem set (h : Remembers cache past) {client token : String} {lifetime : Int}
    (hs : cache.set now client token lifetime = .ok after) :
    Remembers after (past ++ [(now, .set client token lifetime)]) := by
  rcases set_cases cache now client token lifetime with ⟨hl, he⟩ | ⟨hl, hd, he⟩ | ⟨-, -, _, he⟩
  · cases he.symm.trans hs
    refine h.idle fun other => ?_
    rw [bearsOn, decide_eq_false (Int.not_lt.mpr hl), Bool.false_and, Bool.and_false]
  · cases he.symm.trans hs
    intro other
    rw [Members.find?_insert, lastOn_concat, bearsOn, decide_eq_true hl, hd, Bool.and_self,
      Bool.and_true]
    by_cases ho : other = client
    · rw [if_pos ho, if_pos (beq_iff_eq.mpr ho.symm)]
      rfl
    · rw [if_neg ho, if_neg fun hb => ho (beq_iff_eq.mp hb).symm]
      exact h other
  · cases he.symm.trans hs

theorem crash (h : Remembers cache past) {client token : String} {lifetime : Int} {c : Crash}
    (hs : cache.set now client token lifetime = .error c) :
    Remembers cache (past ++ [(now, .set client token lifetime)]) := by
  refine h.idle fun other => ?_
  rcases set_cases cache now client token lifetime with ⟨-, he⟩ | ⟨-, -, he⟩ | ⟨-, hd, -⟩
  · cases he.symm.trans hs
  · cases he.symm.trans hs
  · rw [bearsOn, hd, Bool.and_false, Bool.and_false]

/-- The entry of a client comes of a set of its own. -/
theorem find?_eq_some_iff (h : Remembers cache past) {client token : String} {expiry : Instant} :
    cache.entries.find? client = some ⟨token, expiry⟩ ↔ ∃ set lifetime,
      lastOn client past = some (set, .set client token lifetime) ∧
        expiry = endOf set lifetime := by
  rw [h client, Option.bind_eq_some_iff]
  constructor
  · rintro ⟨⟨set, what⟩, hl, he⟩
    cases what with
    | set other _ lifetime =>
      obtain ⟨-, -, -, hb, -⟩ := lastOn_eq_some_iff.mp hl
      cases beq_iff_eq.mp (Bool.and_eq_true_iff.mp hb).1
      cases he
      exact ⟨set, lifetime, hl, rfl⟩
    | get => cases he
    | clear => cases he
    | copy => cases he
  · rintro ⟨set, lifetime, hl, rfl⟩
    exact ⟨_, hl, rfl⟩

/-- A client finds its token as long as it is not empty and its end is not reached. -/
theorem get?_eq_some_iff (h : Remembers cache past) {client token : String} :
    cache.get? now client = some token ↔ ∃ set lifetime,
      lastOn client past = some (set, .set client token lifetime) ∧ token ≠ "" ∧
        now < endOf set lifetime := by
  rw [TokenCache.get?_eq_some_iff]
  constructor
  · rintro ⟨expiry, hf, ht, hx⟩
    obtain ⟨set, lifetime, hl, rfl⟩ := h.find?_eq_some_iff.mp hf
    exact ⟨set, lifetime, hl, ht, hx⟩
  · rintro ⟨set, lifetime, hl, ht, hx⟩
    exact ⟨endOf set lifetime, h.find?_eq_some_iff.mpr ⟨set, lifetime, hl, rfl⟩, ht, hx⟩

end Remembers

/-! ### Steps and runs -/

section Run
variable {desk : TokenDesk} {past : List Noted}

theorem tryStep_of_ok {s : Step} {answer : Answer} {after : TokenDesk}
    (h : desk.step s = .ok (answer, after)) : desk.tryStep s = (.ok answer, after) := by
  rw [tryStep, h]

/-- A step that crashes leaves the entries and the clock. -/
theorem tryStep_of_error {s : Step} {crash : Crash} (h : desk.step s = .error crash) :
    desk.tryStep s = (.error crash, desk) := by
  rw [tryStep, h]

/-- The clock goes as steps tell it to, whatever is done at the desk. -/
theorem tryStep_now (s : Step) : (desk.tryStep s).2.now = tick desk.now s := by
  cases s with
  | use handle what =>
    cases what with
    | set client token lifetime =>
      cases hs : desk.cache.set desk.now client token lifetime with
      | ok cache =>
        rw [tryStep_of_ok (by rw [step, use, hs]; rfl)]
        rfl
      | error crash =>
        rw [tryStep_of_error (by rw [step, use, hs]; rfl)]
        rfl
    | get client => rfl
    | clear client => rfl
    | copy => rfl
  | advance ms ns =>
    rw [tick]
    cases hc : Instant.inCalendar (desk.now + (ms * Instant.millisecond + ns)) with
    | true =>
      rw [tryStep_of_ok (by rw [step, Instant.later, hc]; rfl)]
      rfl
    | false =>
      rw [tryStep_of_error (by rw [step, Instant.later, hc]; rfl)]
      rfl

/-- What one step preserves: the entries are those that the last uses have left. -/
theorem remembers_tryStep (h : Remembers desk.cache past) (s : Step) :
    Remembers (desk.tryStep s).2.cache (past ++ noted desk.now s) := by
  cases s with
  | use handle what =>
    cases what with
    | set client token lifetime =>
      cases hs : desk.cache.set desk.now client token lifetime with
      | ok cache =>
        rw [tryStep_of_ok (by rw [step, use, hs]; rfl)]
        exact h.set hs
      | error crash =>
        rw [tryStep_of_error (by rw [step, use, hs]; rfl)]
        exact h.crash hs
    | get client => exact h.idle fun _ => rfl
    | clear client => exact h.clear client
    | copy => exact h.idle fun _ => rfl
  | advance ms ns =>
    rw [noted, List.append_nil]
    cases hl : Instant.later desk.now (ms * Instant.millisecond + ns) with
    | ok now =>
      rw [tryStep_of_ok (by rw [step, hl]; rfl)]
      exact h
    | error crash =>
      rw [tryStep_of_error (by rw [step, hl]; rfl)]
      exact h

theorem run_now (steps : List Step) : (desk.run steps).now = clock desk.now steps := by
  induction steps generalizing desk with
  | nil => rfl
  | cons s steps ih => exact ih.trans (by rw [tryStep_now]; rfl)

/-- What a whole run preserves, by induction on its steps with any history before them. -/
theorem remembers_run (h : Remembers desk.cache past) (steps : List Step) :
    Remembers (desk.run steps).cache (past ++ history desk.now steps) := by
  induction steps generalizing desk past with
  | nil =>
    rw [history, List.append_nil]
    exact h
  | cons s steps ih =>
    have hr := ih (remembers_tryStep h s)
    rw [tryStep_now, List.append_assoc] at hr
    exact hr

end Run

/-- A desk goes by its HISTORY. After any steps through any handles, a client finds a token exactly
    if the last use that bears on the client has set it, it is not empty, and the time is before
    its end. Setting a token crashes exactly if it is to be kept and its end cannot be told, and
    what crashes, a set or a move of the clock, leaves all as it is. -/
theorem run_refines_history (start : Instant) (steps : List Step) :
    let desk := (openedAt start).run steps
    let now := clock start steps
    let past := history start steps
    desk.now = now ∧
      (∀ handle client, ∃ found,
        desk.step (.use handle (.get client)) = .ok (.token found, desk) ∧
          ∀ token, found = some token ↔ ∃ set lifetime,
            lastOn client past = some (set, .set client token lifetime) ∧ token ≠ "" ∧
              now < endOf set lifetime) ∧
      (∀ handle client token lifetime crash,
        desk.step (.use handle (.set client token lifetime)) = .error crash ↔
          300 < lifetime ∧ (crash = .lifetime ∧ 9223372036854775 < lifetime - 300 ∨
            crash = .instant ∧ lifetime - 300 ≤ 9223372036854775 ∧
              Instant.inCalendar (endOf now lifetime) = false)) ∧
      ∀ s crash, desk.step s = .error crash → desk.tryStep s = (.error crash, desk) := by
  intro desk now past
  have hnow : desk.now = now := run_now steps
  have hpast : Remembers desk.cache past := @remembers_run (openedAt start) [] Remembers.empty steps
  refine ⟨hnow, fun handle client => ?_, fun handle client token lifetime crash => ?_,
    fun s crash hs => tryStep_of_error hs⟩
  · refine ⟨desk.cache.get? desk.now client, rfl, fun token => ?_⟩
    rw [hpast.get?_eq_some_iff, hnow]
  · rw [step, use, ← hnow, ← @set_eq_error_iff desk.cache desk.now client token]
    cases desk.cache.set desk.now client token lifetime with
    | ok cache => exact ⟨nofun, nofun⟩
    | error c =>
      constructor
      · intro he
        cases he
        rfl
      · intro he
        cases he
        rfl

end CallTransfer.TokenDesk
