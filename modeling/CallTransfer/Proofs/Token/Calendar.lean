import CallTransfer.Proofs.Token.Fetcher

/-!
    How FAR ahead the end of a token may lie. An endpoint tells the lifetime of its token as any
    number of 64 bits, and the calendar ends before the time of many of them does. A token that
    lives longer than the calendar lasts is not handed out: the exchange crashes. Whatever else
    comes back is a token or a failure to authorise.
-/

namespace CallTransfer.TokenExchange

open TokenDesk (hasEnd endOf)

/-- The longest lifetime of a token that is set at an instant and given up within the calendar. -/
def longest (set : Instant) : Int := 300 + (Instant.last - set) / Instant.second

/-- What keeping a token comes to that outlives the calendar. -/
def overrun (lifetime : Int) : Crash :=
  if 9223372036854775 < lifetime - 300 then .lifetime else .instant

/-! ### Lifetimes and the calendar -/

section Lifetime
variable {set : Instant} {lifetime : Int} {told : Option Int}

theorem inCalendar_iff {t : Int} : Instant.inCalendar t = true ↔
    -8334601228800000000000 ≤ t ∧ t ≤ 8210266876799999999999 := by
  rw [Instant.inCalendar, Bool.and_eq_true]
  exact and_congr decide_eq_true_iff decide_eq_true_iff

theorem longest_eq (set : Int) : longest set = 300 + (8210266876799999999999 - set) / 1000000000 :=
  rfl

theorem endOf_eq (set : Int) : endOf set lifetime = set + (lifetime - 300) * 1000000000 := rfl

/-- A token that is not to be kept outlives no calendar. -/
theorem margin_le_longest (h : Instant.inCalendar set = true) : 300 ≤ longest set := by
  have hset := inCalendar_iff.mp h
  rw [longest_eq]
  omega

/-- The whole calendar lasts less long than what 64 bits of milliseconds hold. -/
theorem longest_lt (h : Instant.inCalendar set = true) : longest set < 9223372036854775 := by
  have hset := inCalendar_iff.mp h
  rw [longest_eq]
  omega

/-- A token that is to be kept ends in the calendar exactly if it does not outlive that. -/
theorem inCalendar_endOf_iff (h : Instant.inCalendar set = true) (hl : 300 < lifetime) :
    Instant.inCalendar (endOf set lifetime) = true ↔ lifetime ≤ longest set := by
  have hset := inCalendar_iff.mp h
  rw [inCalendar_iff, endOf_eq, longest_eq]
  omega

/-- It is the calendar alone that says whether the end of a token can be told. -/
theorem hasEnd_iff (h : Instant.inCalendar set = true) (hl : 300 < lifetime) :
    hasEnd set lifetime = true ↔ lifetime ≤ longest set := by
  have hspan := longest_lt h
  rw [hasEnd, Bool.and_eq_true, decide_eq_true_eq, inCalendar_endOf_iff h hl]
  omega

theorem keepable_iff (h : Instant.inCalendar set = true) :
    Keepable set told ↔ ∀ lifetime, told = some lifetime → lifetime ≤ longest set := by
  have hmargin := margin_le_longest h
  constructor
  · intro hk lifetime ht
    rcases Int.lt_or_le 300 lifetime with hl | hl
    · exact (hasEnd_iff h hl).mp (hk lifetime ht hl)
    · omega
  · intro hle lifetime ht hl
    exact (hasEnd_iff h hl).mpr (hle lifetime ht)

/-- Setting a token crashes exactly if it outlives the calendar. -/
theorem set_eq_error_iff_longest_lt (h : Instant.inCalendar set = true) {cache : TokenCache}
    {client token : String} {crash : Crash} :
    cache.set set client token lifetime = .error crash ↔
      longest set < lifetime ∧ crash = overrun lifetime := by
  have hmargin := margin_le_longest h
  have hspan := longest_lt h
  rw [TokenDesk.set_eq_error_iff, overrun]
  constructor
  · rintro ⟨hl, ⟨rfl, hbig⟩ | ⟨rfl, hsmall, hc⟩⟩
    · exact ⟨by omega, (if_pos hbig).symm⟩
    · rw [← Bool.not_eq_true, inCalendar_endOf_iff h hl] at hc
      exact ⟨by omega, (if_neg (by omega)).symm⟩
  · rintro ⟨hlong, rfl⟩
    have hl : 300 < lifetime := by omega
    refine ⟨hl, ?_⟩
    split
    · exact Or.inl ⟨rfl, by assumption⟩
    · refine Or.inr ⟨rfl, by omega, ?_⟩
      rw [← Bool.not_eq_true, inCalendar_endOf_iff h hl]
      omega

end Lifetime

/-! ### What an exchange crashes on -/

section Exchange
variable {desk : TokenDesk} {client : String} {reply : Except Failure Bytes}

/-- Settling a reply crashes exactly if it grants a token that outlives the calendar. -/
theorem settle_crashed_iff (h : Instant.inCalendar desk.now = true) {crash : Crash} :
    (settle desk client reply).1 = .error (.crashed crash) ↔ ∃ token lifetime,
      Grants reply token (some lifetime) ∧ longest desk.now < lifetime ∧
        crash = overrun lifetime := by
  constructor
  · intro hs
    rcases settle_cases desk client reply with
      ⟨_, -, he⟩ | ⟨token, told, hg, ⟨_, -, he⟩ | ⟨other, hset, he⟩⟩
    · rw [he] at hs
      cases hs
    · rw [he] at hs
      cases hs
    · rw [he] at hs
      cases hs
      obtain ⟨hlong, hcrash⟩ := (set_eq_error_iff_longest_lt h).mp hset
      cases told with
      | none =>
        have hmargin := margin_le_longest h
        simp only [Option.getD_none] at hlong
        omega
      | some lifetime => exact ⟨token, lifetime, grant_eq_ok_iff.mp hg, hlong, hcrash⟩
  · rintro ⟨token, lifetime, hg, hlong, rfl⟩
    have hg := grant_eq_ok_iff.mpr hg
    have hset : desk.cache.set desk.now client token lifetime = .error (overrun lifetime) :=
      (set_eq_error_iff_longest_lt h).mpr ⟨hlong, rfl⟩
    rcases settle_cases desk client reply with
      ⟨_, hno, -⟩ | ⟨_, _, hgo, ⟨_, hs, -⟩ | ⟨_, hs, he⟩⟩
    · cases hno.symm.trans hg
    · cases hgo.symm.trans hg
      cases hs.symm.trans hset
    · cases hgo.symm.trans hg
      cases hs.symm.trans hset
      rw [he]

end Exchange

/-- An exchange crashes ON the calendar alone. A token that is live is handed out. Otherwise the
    exchange ends with the token that is granted as long as that has no lifetime, or one that the
    rest of the calendar holds after its last 300 seconds are taken off; it crashes exactly on a
    token that lives longer than that; and what else there is to fail are failures to authorise. -/
theorem exchange_crashes_iff (fetcher : Fetcher) (domain : String) (client : Credentials)
    (reply : Except Failure Bytes) (arrival : Instant) (h : Instant.inCalendar arrival = true) :
    let result := (fetcher.exchange domain client reply arrival).1
    (∀ token, IsLive fetcher.desk client.id token → result = .ok token) ∧
    (∀ failure, result = .error (.failed failure) → ∃ text, failure = .auth text) ∧
    ((∀ token, ¬ IsLive fetcher.desk client.id token) →
      (∀ token told, Grants reply token told →
        (∀ lifetime, told = some lifetime → lifetime ≤ longest arrival) → result = .ok token) ∧
      ∀ crash, result = .error (.crashed crash) ↔ ∃ token lifetime,
        Grants reply token (some lifetime) ∧ longest arrival < lifetime ∧
          crash = overrun lifetime) := by
  intro result
  have hlive (token : String) (ht : IsLive fetcher.desk client.id token) : result = .ok token :=
    congrArg Prod.fst (exchange_of_isLive ht)
  let desk := { fetcher.desk with now := arrival }
  have hdead (hn : ∀ token, ¬ IsLive fetcher.desk client.id token) :
      result = (settle desk client.id reply).1 := congrArg Prod.fst (exchange_of_not_isLive hn)
  refine ⟨hlive, fun failure hf => ?_, fun hn => ?_⟩
  · by_cases hn : ∃ token, IsLive fetcher.desk client.id token
    · obtain ⟨token, ht⟩ := hn
      cases (hlive token ht).symm.trans hf
    · rw [hdead (not_exists.mp hn)] at hf
      exact auth_of_settle hf
  · rw [hdead hn]
    refine ⟨fun token told hg hle => ?_, fun crash => settle_crashed_iff h⟩
    exact settle_eq_ok_iff.mpr ⟨told, hg, (keepable_iff h).mpr hle⟩

/-- In September 2020 a token may live 8208666877099 seconds, and one second more is too much. -/
theorem exchange_crashes_iff_second :
    let fetcher : Fetcher := ⟨.openedAt 0, []⟩
    let arrival : Instant := 1600000000 * Instant.second
    let exchange := fun lifetime => (fetcher.exchange "http://h" ⟨"id", "secret"⟩
      (.ok (Text.Utf8.encode ("[\"tok\",null," ++ lifetime ++ "]"))) arrival).1
    Instant.inCalendar arrival = true ∧ longest arrival = 8208666877099 ∧
      exchange "8208666877099" = .ok "tok" ∧
      exchange "8208666877100" = .error (.crashed .instant) := by
  intro fetcher arrival exchange
  have hcalendar : Instant.inCalendar arrival = true := by decide
  have hdead : ∀ token, ¬ IsLive fetcher.desk "id" token := lookup_eq_none_iff.mp (by decide)
  have hends (reply : Except Failure Bytes) :=
    (exchange_crashes_iff fetcher "http://h" ⟨"id", "secret"⟩ reply arrival hcalendar).2.2 hdead
  refine ⟨hcalendar, by decide, ?_, ?_⟩
  · refine (hends _).1 "tok" (some 8208666877099)
      ⟨_, ⟨some "tok", none, some 8208666877099⟩, rfl, by decide +kernel, rfl, by decide, rfl⟩ ?_
    rintro _ ⟨⟩
    decide
  · refine ((hends _).2 .instant).mpr ⟨"tok", 8208666877100, ?_, by decide, by decide⟩
    exact ⟨_, ⟨some "tok", none, some 8208666877100⟩, rfl, by decide +kernel, rfl, by decide, rfl⟩

/-- A token crashes an exchange at any time that is told to live as long as 64 bits can tell. -/
theorem exchange_crashes_on_largest :
    let reply : Except Failure Bytes := .ok (Text.Utf8.encode
      "\x7b\"access_token\":\"tok\",\"expires_in\":9223372036854775807\x7d")
    Grants reply "tok" (some 9223372036854775807) ∧ ∀ arrival, Instant.inCalendar arrival = true →
      ((Fetcher.mk (.openedAt 0) []).exchange "http://h" ⟨"id", "secret"⟩ reply arrival).1 =
        .error (.crashed .lifetime) := by
  intro reply
  have hgrants : Grants reply "tok" (some 9223372036854775807) :=
    ⟨_, ⟨some "tok", none, some 9223372036854775807⟩, rfl, by decide +kernel, rfl, by decide, rfl⟩
  refine ⟨hgrants, fun arrival h => ?_⟩
  have hdead : ∀ token, ¬ IsLive (TokenDesk.openedAt 0) "id" token :=
    lookup_eq_none_iff.mp (by decide)
  rw [exchange_of_not_isLive hdead]
  have hlong : longest arrival < 9223372036854775807 := Int.lt_trans (longest_lt h) (by decide)
  exact (settle_crashed_iff h).mpr ⟨"tok", _, hgrants, hlong, by decide⟩

end CallTransfer.TokenExchange
