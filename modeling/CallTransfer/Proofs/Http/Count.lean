import CallTransfer.Proofs.Http.Attempts

/-!
    What a call that fails says it has TRIED. It fails for want of attempts only behind a round that
    trying again may cure, with no retry left; and each such round makes one attempt. The number
    that it reports is another one, made in 32 bits of the retries that are allowed: it agrees with
    the attempts unless as many retries are allowed as 32 bits can say, when it is nought.
-/

namespace CallTransfer.Http

/-! ### Rounds of a call -/

/-- A round of a call: a request is authorised, in a mode if there is one, and attempted. -/
def CallState.once (missing : Failure) (auth : Option Auth) (url : Url) (request : Request) :
    Act CallState Outcome :=
  authorized (auth.map (·.header (issue missing))) request >>= attempt url

section Round
variable {missing : Failure} {auth : Option Auth} {url : Url} {request : Request} {s t : CallState}

/-- A request is authorised without an attempt, or it is not for want of authorisation. -/
theorem CallState.authorized_cases (missing : Failure) (auth : Option Auth) (request : Request)
    (s : CallState) : ∃ result u,
      authorized (auth.map (·.header (issue missing))) request s = (result, u) ∧
        u.attempts = s.attempts ∧
        ∀ halt, result = .error halt → ∃ text, halt = .failed (.auth text) := by
  cases auth with
  | none => exact ⟨_, _, rfl, rfl, nofun⟩
  | some auth =>
    cases hr : request.isAuthorized with
    | true =>
      refine ⟨.ok request, s, ?_, rfl, nofun⟩
      simp only [Option.map_some, authorized, hr]
      rfl
    | false =>
      have ha := authorized_asked hr s missing auth 0
      rw [asked_zero] at ha
      refine ⟨_, _, ha, asked_attempts s auth 1, fun halt he => ?_⟩
      cases hv : s.resolution missing auth 0 with
      | ok value =>
        rw [hv] at he
        cases he
      | error failure =>
        rw [hv] at he
        obtain ⟨text, rfl⟩ := resolution_eq_error hv
        cases he
        exact ⟨text, rfl⟩

/-- A round that comes to an outcome makes one attempt. -/
theorem CallState.attempts_of_once {outcome : Outcome}
    (h : once missing auth url request s = (.ok outcome, t)) :
    t.attempts.length = s.attempts.length + 1 := by
  obtain ⟨outgoing, u, ha, hattempt⟩ := Act.run_bind_eq_ok_iff.mp h
  obtain ⟨result, v, hv, hsame, -⟩ := authorized_cases missing auth request s
  obtain ⟨-, rfl⟩ := Prod.mk.inj (ha.symm.trans hv)
  cases hattempt
  simp [hsame]

/-- A round that comes to nothing lacks authorisation. -/
theorem CallState.auth_of_once {halt : Halt}
    (h : once missing auth url request s = (.error halt, t)) :
    ∃ text, halt = .failed (.auth text) := by
  obtain ⟨result, u, ha, -, hauth⟩ := authorized_cases missing auth request s
  cases result with
  | error other =>
    rw [once, Act.run_bind_error ha] at h
    cases h
    exact hauth _ rfl
  | ok outgoing =>
    rw [once, Act.run_bind_ok ha] at h
    cases h

/-- Rounds that trying again may cure make one attempt each. -/
theorem CallState.attempts_of_walk {outcomes : List Outcome}
    (h : Walk (Retried (once missing auth url request)) s outcomes t) :
    t.attempts.length = s.attempts.length + outcomes.length := by
  induction h with
  | nil s => rfl
  | cons first _ ih =>
    rw [ih, attempts_of_once first.1, List.length_cons]
    omega

end Round

/-! ### Calls that fail for want of attempts -/

/-- A call that says it has used up its attempts ended with a round that trying again may cure. -/
theorem again_of_concluded {attempts told : Nat} {cause : String} {round : Except Halt Outcome}
    (hround : ∀ halt, round = .error halt → ∃ text, halt = .failed (.auth text))
    (h : concluded attempts round = .error (.failed (.retriesExhausted told cause))) :
    told = attempts ∧ Again round := by
  cases round with
  | error halt =>
    obtain ⟨text, rfl⟩ := hround halt rfl
    cases h
  | ok outcome =>
    rw [concluded] at h
    split at h
    · rename_i hr
      cases h
      exact ⟨rfl, outcome, rfl, hr⟩
    · cases outcome <;> cases h

variable {settings : RetrySettings} {told made : Nat}

/-- Whether some call that has used up its attempts says so many there were, and so many there
    were; whatever mode, request and state it is made with. -/
def Reports (settings : RetrySettings) (told made : Nat) : Prop :=
  ∃ (missing : Failure) (auth : Option Auth) (request : Request) (s t : CallState) (cause : String),
    fetch settings CallState.attempt (auth.map (·.header (CallState.issue missing))) request s =
        (.error (.failed (.retriesExhausted told cause)), t) ∧
      t.attempts.length = s.attempts.length + made

/-- Such a call has made all attempts it may, and says what the retries and one come to. -/
theorem Reports.exact (h : Reports settings told made) :
    made = settings.maxRetries.toNat + 1 ∧ told = (settings.maxRetries + 1).toNat := by
  obtain ⟨missing, auth, request, s, t, cause, hcall, hmade⟩ := h
  cases hu : Url.parse request.url with
  | error fault =>
    rw [fetch_of_error hu] at hcall
    cases hcall
  | ok url =>
    obtain ⟨outcomes, v, hwalk, -, hcrash | ⟨round, u, hround, hends, hlast⟩⟩ :=
      fetch_walk settings CallState.attempt (auth.map (·.header (CallState.issue missing))) hu s
    · rw [hcrash] at hcall
      cases hcall
    · obtain ⟨hconcluded, rfl⟩ := Prod.mk.inj (hends.symm.trans hcall)
      obtain ⟨rfl, hagain⟩ := again_of_concluded
        (fun halt he => CallState.auth_of_once (he ▸ hround)) hconcluded
      have hall : outcomes.length = settings.maxRetries.toNat :=
        hlast.resolve_right fun hn => hn hagain
      obtain ⟨outcome, rfl, -⟩ := hagain
      have hbefore := CallState.attempts_of_walk hwalk
      have hafter := CallState.attempts_of_once hround
      exact ⟨by omega, rfl⟩

/-! ### Calls that never get through -/

/-- An encrypted request never gets through, so that its call makes all attempts it may. -/
theorem fetch_encrypted (hb : settings.baseDelay ≤ 1000000000000) {request : Request} {url : Url}
    (hu : Url.parse request.url = .ok url) (hs : url.scheme = "https".toList)
    (hq : isRequestable (splitUser url).1 = true) (s : CallState) :
    fetch settings CallState.attempt none request s =
      (.error (.failed (.retriesExhausted (settings.maxRetries + 1).toNat
        (unconnected (splitUser url).1).cause)),
        { s with attempts := s.attempts ++
            List.replicate (settings.maxRetries.toNat + 1) (url, request) }) := by
  let stage (k : Nat) : CallState :=
    { s with attempts := s.attempts ++ List.replicate k (url, request) }
  let outcome := unconnected (splitUser url).1
  have hround (k : Nat) : (authorized none request >>= CallState.attempt url) (stage k) =
      (.ok outcome, stage (k + 1)) := by
    have hmeets : Network.attempt url request s.network = (outcome, s.network) :=
      Network.attempt_of_not_isOpen hq (Or.inr hs) request
    have ha : (authorized none request : Act CallState Request) (stage k) =
        (.ok request, stage k) := rfl
    rw [Act.run_bind_ok ha]
    simp only [CallState.attempt, stage, hmeets, List.append_assoc, List.replicate_succ']
  have hagain : Again (.ok outcome) := ⟨outcome, rfl, rfl⟩
  obtain ⟨i, -, -, -, hlast, hrun⟩ :=
    repeatFrom_decides hb hround settings.maxRetries.toNat 0
  obtain rfl : i = 0 + settings.maxRetries.toNat := hlast.resolve_right fun hn => hn hagain
  have hzero : stage 0 = s := by simp [stage]
  rw [hzero, Nat.zero_add] at hrun
  exact fetch_of_rounds hu hrun

/-- A state in which nothing is prepared. -/
def CallState.bare : CallState := ⟨⟨false, [], []⟩, ⟨[], []⟩, []⟩

/-- A request that never gets through. -/
def lost : Request := ⟨"GET", "https://h/a", [], none⟩

/-- What is said of a request that never gets through. -/
def lostCause : String :=
  "transport error: error sending request for url (https://h/a) (connection_failed)"

/-- The call with it fails for want of attempts, and says what the retries and one come to. -/
theorem fetch_lost (hb : settings.baseDelay ≤ 1000000000000) :
    ∃ t, fetch settings CallState.attempt none lost .bare =
        (.error (.failed (.retriesExhausted (settings.maxRetries + 1).toNat lostCause)), t) ∧
      t.attempts.length = settings.maxRetries.toNat + 1 := by
  let url : Url :=
    ⟨"https".toList, some ⟨[], [], .name ['h'], none⟩, .segments [['a']], none, none⟩
  have hu : Url.parse lost.url = .ok url := by rfl
  have hcause : (unconnected (splitUser url).1).cause = lostCause := by
    decide +kernel
  refine ⟨_, (fetch_encrypted hb hu rfl (by decide +kernel) .bare).trans (by rw [hcause]), ?_⟩
  simp [CallState.bare]

/-! ### The number that is reported -/

/-- AS COUNTED: whatever the environment says, a call that fails for want of attempts has made one
    more than there may be retries, and reports that number in 32 bits; and unless pauses are so
    long that they crash, there is such a call. So the number does not overflow, and is the one of
    the attempts that were made, exactly if not all 32 bits of the retries are set. -/
theorem fetch_counted (env : Environment) :
    let settings := RetrySettings.ofEnvironment env
    (∀ told made, Reports settings told made →
      made = settings.maxRetries.toNat + 1 ∧ told = made % 4294967296) ∧
    (settings.baseDelay ≤ 1000000000000 →
      Reports settings ((settings.maxRetries.toNat + 1) % 4294967296)
        (settings.maxRetries.toNat + 1)) ∧
    (((settings.maxRetries + 1).toNat = settings.maxRetries.toNat + 1 ∧
        ∀ told made, Reports settings told made → told = made ∧ 1 ≤ told) ↔
      settings.maxRetries.toNat < 4294967295) := by
  intro settings
  have htold : (settings.maxRetries + 1).toNat = (settings.maxRetries.toNat + 1) % 4294967296 := by
    rw [UInt32.toNat_add, UInt32.toNat_one]
  refine ⟨fun told made h => ?_, fun hb => ?_, ?_⟩
  · obtain ⟨rfl, rfl⟩ := h.exact
    exact ⟨rfl, htold⟩
  · obtain ⟨t, hcall, hmade⟩ := fetch_lost hb
    rw [← htold]
    exact ⟨.auth "", none, lost, .bare, t, lostCause, hcall,
      hmade.trans (Nat.zero_add _).symm⟩
  · rw [← toNat_attempts_iff]
    refine ⟨And.left, fun hfits => ⟨hfits, fun told made h => ?_⟩⟩
    obtain ⟨rfl, rfl⟩ := h.exact
    exact ⟨hfits, by omega⟩

/-- By default four attempts are made, and as many are reported. -/
theorem fetch_counted_default :
    Reports (.ofEnvironment ⟨[]⟩) 4 4 ∧
      ∀ told made, Reports (.ofEnvironment ⟨[]⟩) told made → told = made := by
  obtain ⟨-, hsome, hiff⟩ := fetch_counted ⟨[]⟩
  exact ⟨hsome (by decide +kernel), fun told made h =>
    ((hiff.mpr (by decide +kernel)).2 told made h).1⟩

/-- With as many retries as 32 bits can say, a call reports no attempts where it has made all. -/
theorem fetch_counted_overflow :
    let settings := RetrySettings.ofEnvironment
      ⟨[("HTTP_MAX_RETRIES", "4294967295"), ("HTTP_RETRY_BASE_DELAY", "0s")]⟩
    settings.maxRetries = 4294967295 ∧
      ∃ t, fetch settings CallState.attempt none lost .bare =
          (.error (.failed (.retriesExhausted 0 lostCause)), t) ∧
        t.attempts.length = 4294967296 := by
  intro settings
  have hm : settings.maxRetries = 4294967295 := by decide +kernel
  have hb : settings.baseDelay ≤ 1000000000000 := by decide +kernel
  obtain ⟨t, hcall, hmade⟩ := fetch_lost hb
  rw [hm] at hcall hmade
  exact ⟨hm, t, hcall, hmade⟩

end CallTransfer.Http
