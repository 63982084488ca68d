import CallTransfer.Instant
import CallTransfer.Json.Members

/-!
    The token cache, with one entry a client. A token is kept until 300 seconds before it expires,
    and one that lives no longer than that is not kept at all, so that the one before it stays.
    Entries are never swept: an entry whose time has passed is only not handed out, and counts
    again if the clock is put back.
-/

namespace CallTransfer

/-- A token and the instant from which it is no longer handed out. -/
structure TokenEntry where
  token : String
  expiry : Instant
  deriving DecidableEq, Repr

/-- The entries by client. -/
structure TokenCache where
  entries : Members TokenEntry
  deriving Repr

namespace TokenCache

/-- No entries. -/
def empty : TokenCache := ⟨[]⟩

/-- How many seconds before its end a token is given up. -/
def margin : Int := 300

/-- The longest lifetime that can be told, in seconds: 64 bits of milliseconds. -/
def maxSeconds : Int := 9223372036854775

/-- The token of a client at an instant. -/
def get? (cache : TokenCache) (now : Instant) (client : String) : Option String :=
  ((cache.entries.find? client).filter fun e => e.token ≠ "" && now < e.expiry).map (·.token)

/-- The instant from which a token is given up that lives so many seconds from now. -/
def expiry (now : Instant) (lifetime : Int) : Except Crash Instant :=
  if maxSeconds < lifetime - margin then .error .lifetime
  else now.later ((lifetime - margin) * Instant.second)

/-- The cache with a client's token, if it lives long enough. -/
def set (cache : TokenCache) (now : Instant) (client token : String) (lifetime : Int) :
    Except Crash TokenCache :=
  if lifetime ≤ margin then .ok cache
  else (expiry now lifetime).map fun expiry => ⟨cache.entries.insert client ⟨token, expiry⟩⟩

/-- The cache without a client's token. -/
def clear (cache : TokenCache) (client : String) : TokenCache := ⟨cache.entries.erase client⟩

/-! ### What is found -/

/-- No client has a token to begin with. -/
theorem get?_empty (now : Instant) (client : String) : empty.get? now client = none := rfl

/-- A client whose token is dropped has none, and the others have what they had. -/
theorem get?_clear (cache : TokenCache) (now : Instant) (client other : String) :
    (cache.clear client).get? now other =
      if other = client then none else cache.get? now other := by
  by_cases h : other = client <;> simp [get?, clear, Members.find?_erase, h]

/-- A token is found in its client's entry, unless it is empty or has ended. -/
theorem get?_eq_some_iff {cache : TokenCache} {now : Instant} {client token : String} :
    cache.get? now client = some token ↔ ∃ expiry,
      cache.entries.find? client = some ⟨token, expiry⟩ ∧ token ≠ "" ∧ now < expiry := by
  rw [get?, Option.map_eq_some_iff]
  constructor
  · rintro ⟨⟨_, expiry⟩, he, rfl⟩
    obtain ⟨hf, hk⟩ := Option.filter_eq_some_iff.mp he
    obtain ⟨ht, hx⟩ := Bool.and_eq_true_iff.mp hk
    exact ⟨expiry, hf, of_decide_eq_true ht, of_decide_eq_true hx⟩
  · rintro ⟨expiry, hf, ht, hx⟩
    refine ⟨⟨token, expiry⟩, Option.filter_eq_some_iff.mpr ⟨hf, ?_⟩, rfl⟩
    exact Bool.and_eq_true_iff.mpr ⟨decide_eq_true ht, decide_eq_true hx⟩

/-- A short-lived token changes nothing. -/
theorem set_of_le_margin (cache : TokenCache) (now : Instant) (client token : String)
    {lifetime : Int} (h : lifetime ≤ margin) : cache.set now client token lifetime = .ok cache := by
  simp [set, h]

/-- A token that is kept is its client's entry, and the entries of others stay. -/
theorem find?_set {cache after : TokenCache} {now : Instant} {client token : String}
    {lifetime : Int} (h : margin < lifetime)
    (hs : cache.set now client token lifetime = .ok after) (other : String) :
    ∃ t, expiry now lifetime = .ok t ∧ after.entries.find? other =
      if other = client then some ⟨token, t⟩ else cache.entries.find? other := by
  unfold set at hs
  rw [if_neg (by omega)] at hs
  cases he : expiry now lifetime with
  | error c => simp [he, Except.map] at hs
  | ok t =>
    simp only [he, Except.map, Except.ok.injEq] at hs
    exact ⟨t, rfl, by rw [← hs, Members.find?_insert]⟩

end TokenCache

end CallTransfer
