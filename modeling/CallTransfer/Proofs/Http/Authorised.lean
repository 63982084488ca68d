import CallTransfer.Auth
import CallTransfer.Proofs.Http.Unauthorised

/-!
    Calls with authorisation. Every round of such a call resolves the header anew, unless the caller
    has given one, and goes on to its attempt only with a value that a header may hold. The first
    round that has none ENDS the call; it counts as no attempt and leaves no request behind.
-/

namespace CallTransfer.Http

/-! ### Header values in bytes -/

/-- Whether a byte may stand in a header value: no control but the tab. -/
def isHeaderByte (b : UInt8) : Bool := b == 0x09 || (0x20 ≤ b && b != 0x7F)

theorem all_isHeaderByte_encodeChar (c : Char) :
    (String.utf8EncodeChar c).all isHeaderByte = isHeaderChar c := by
  by_cases h : c.toNat ≤ 0x7F
  · have hb : (UInt8.ofNat c.toNat).toNat = c.toNat := by
      rw [UInt8.toNat_ofNat']
      omega
    rw [Text.Utf8.encodeChar_of_le h, List.all_cons, List.all_nil, Bool.and_true, Bool.eq_iff_iff]
    simp [isHeaderByte, isHeaderChar, UInt8.le_iff_toNat_le, ← UInt8.toNat_inj, hb,
      ← Char.toNat_inj]
  · -- No byte of a character beyond ASCII is a control character, as the character is none.
    have hl : 0x20 ≤ c.toNat := by omega
    have hn : c.toNat ≠ 0x7F := by omega
    rw [isHeaderChar, decide_eq_true hl, bne_iff_ne.mpr hn, Bool.and_self, Bool.or_true,
      List.all_eq_true]
    intro b hb
    have hb8 := Text.Utf8.le_of_mem_encodeChar (Nat.not_le.mp h) hb
    have hbl : (0x20 : UInt8) ≤ b := UInt8.le_iff_toNat_le.mpr (Nat.le_trans (by decide) hb8)
    have hbn : b ≠ 0x7F := by
      rintro rfl
      exact absurd hb8 (by decide)
    rw [isHeaderByte, decide_eq_true hbl, bne_iff_ne.mpr hbn, Bool.and_self, Bool.or_true]

/-- A text may be a header value when all its bytes may stand in one. -/
theorem isHeaderValue_eq (s : String) :
    isHeaderValue s = (Text.Utf8.encode s).all isHeaderByte := by
  rw [isHeaderValue, Text.Utf8.encode, List.all_flatMap]
  congr 1
  funext c
  exact (all_isHeaderByte_encodeChar c).symm

/-! ### Resolving the header -/

/-- A header value, if it is one. -/
def allowed (value : String) : Except Failure String :=
  if (Text.Utf8.encode value).all isHeaderByte then .ok value
  else .error (.auth "authorization header contains invalid characters")

namespace CallState

/-- What the header is resolved to behind so many other times. -/
def resolution (s : CallState) (missing : Failure) (auth : Auth) (times : Nat) :
    Except Failure String :=
  match auth with
  | .apiKey key => allowed ("ApiKey " ++ key)
  | .oauth2 domain _ =>
    if domain = "" then .error (.auth "authDomain is required for OAuth authentication")
    else match s.tokens.results[times]?.getD (.error missing) with
      | .ok token => allowed ("Bearer " ++ token)
      | .error failure => .error failure.asAuth

/-- The state after the header has been resolved so many times. -/
def asked (s : CallState) (auth : Auth) (times : Nat) : CallState :=
  match auth with
  | .apiKey _ => s
  | .oauth2 domain client =>
    if domain = "" then s
    else { s with tokens :=
      ⟨s.tokens.results.drop times, s.tokens.asked ++ List.replicate times (domain, client)⟩ }

theorem asked_zero (s : CallState) (auth : Auth) : s.asked auth 0 = s := by
  cases auth with
  | apiKey key => rfl
  | oauth2 domain client => by_cases hd : domain = "" <;> simp [asked, hd]

/-- Attempts and the source of tokens do not see each other. -/
theorem attempt_asked (s : CallState) (auth : Auth) (times : Nat) (url : Url) (request : Request) :
    attempt url request (s.asked auth times) =
      ((attempt url request s).1, (attempt url request s).2.asked auth times) := by
  cases auth with
  | apiKey key => rfl
  | oauth2 domain client => by_cases hd : domain = "" <;> simp only [asked, hd] <;> rfl

end CallState

theorem asAuth_eq (failure : Failure) : ∃ text, failure.asAuth = .auth text := by
  cases failure <;> exact ⟨_, rfl⟩

/-- The header is only ever missing for want of authorisation. -/
theorem CallState.resolution_eq_error {s : CallState} {missing failure : Failure} {auth : Auth}
    {k : Nat} (h : s.resolution missing auth k = .error failure) :
    ∃ text, failure = .auth text := by
  have ha : ∀ value, allowed value = .error failure → ∃ text, failure = .auth text := by
    intro value hv
    unfold allowed at hv
    split at hv
    · cases hv
    · cases hv
      exact ⟨_, rfl⟩
  cases auth with
  | apiKey key => exact ha _ h
  | oauth2 domain client =>
    by_cases hd : domain = ""
    · simp only [resolution, if_pos hd] at h
      cases h
      exact ⟨_, rfl⟩
    · simp only [resolution, if_neg hd] at h
      cases ht : s.tokens.results[k]?.getD (.error missing) with
      | ok token => exact ha _ (by rwa [ht] at h)
      | error other =>
        rw [ht] at h
        cases h
        exact asAuth_eq other

/-- A request with the value of its authorization. -/
def carrying (request : Request) (value : String) : Request :=
  request.withHeader (authorization value)

/-- The request of a round, or why there is none. -/
def carried (request : Request) : Except Failure String → Except Halt Request
  | .ok value => .ok (carrying request value)
  | .error failure => .error (.failed failure)

theorem authorized_eq_bind (act : Act σ String) {request : Request}
    (hr : request.isAuthorized = false) :
    authorized (some act) request = Act.rewording Failure.asAuth act >>= fun value =>
      if isHeaderValue value then pure (carrying request value)
      else Act.fail (.auth "authorization header contains invalid characters") := by
  simp only [authorized, hr]
  rfl

theorem authorized_of_header {act : Act σ String} {request : Request}
    (hr : request.isAuthorized = false) {s t : σ} {value : String} (h : act s = (.ok value, t)) :
    authorized (some act) request s = (carried request (allowed value), t) := by
  rw [authorized_eq_bind act hr, Act.run_bind_ok (Act.run_rewording_ok h _), allowed,
    ← isHeaderValue_eq]
  cases isHeaderValue value <;> rfl

theorem authorized_of_failure {act : Act σ String} {request : Request}
    (hr : request.isAuthorized = false) {s t : σ} {failure : Failure}
    (h : act s = (.error (.failed failure), t)) :
    authorized (some act) request s = (.error (.failed failure.asAuth), t) := by
  rw [authorized_eq_bind act hr, Act.run_bind_error (Act.run_rewording_failed h _)]

/-- A request without credentials is given those that the header resolves to next. -/
theorem authorized_asked {request : Request} (hr : request.isAuthorized = false) (s : CallState)
    (missing : Failure) (auth : Auth) (k : Nat) :
    authorized (some (auth.header (CallState.issue missing))) request (s.asked auth k) =
      (carried request (s.resolution missing auth k), s.asked auth (k + 1)) := by
  cases auth with
  | apiKey key => exact authorized_of_header hr rfl
  | oauth2 domain client =>
    by_cases hd : domain = ""
    · have h : Auth.header (CallState.issue missing) (.oauth2 domain client)
          (s.asked (.oauth2 domain client) k) = (.error (.failed
            (.auth "authDomain is required for OAuth authentication")), s) := by
        simp only [Auth.header, CallState.asked, if_pos hd]
        rfl
      rw [authorized_of_failure hr h]
      simp only [CallState.resolution, CallState.asked, if_pos hd]
      rfl
    · have hi : CallState.issue missing domain client (s.asked (.oauth2 domain client) k) =
          (Script.give (s.tokens.results[k]?.getD (.error missing)),
            s.asked (.oauth2 domain client) (k + 1)) := by
        simp [CallState.issue, Act.zoom, Script.take, CallState.asked, hd, List.replicate_succ']
      cases ht : s.tokens.results[k]?.getD (.error missing) with
      | ok token =>
        rw [ht] at hi
        have h : Auth.header (CallState.issue missing) (.oauth2 domain client)
            (s.asked (.oauth2 domain client) k) =
              (.ok ("Bearer " ++ token), s.asked (.oauth2 domain client) (k + 1)) := by
          simp only [Auth.header, if_neg hd]
          exact Act.run_bind_ok hi _
        rw [authorized_of_header hr h]
        simp only [CallState.resolution, if_neg hd, ht]
      | error failure =>
        rw [ht] at hi
        have h : Auth.header (CallState.issue missing) (.oauth2 domain client)
            (s.asked (.oauth2 domain client) k) =
              (.error (.failed failure), s.asked (.oauth2 domain client) (k + 1)) := by
          simp only [Auth.header, if_neg hd]
          exact Act.run_bind_error hi _
        rw [authorized_of_failure hr h]
        simp only [CallState.resolution, if_neg hd, ht]
        rfl

/-! ### Rounds -/

namespace CallState

/-- The values that the header has been resolved to behind so many rounds. -/
def values (s : CallState) (missing : Failure) (auth : Auth) (rounds : Nat) : List String :=
  (List.range rounds).filterMap fun k => (s.resolution missing auth k).toOption

/-- The state after so many rounds of attempts at a URL. -/
def stage (s : CallState) (missing : Failure) (auth : Auth) (url : Url) (request : Request)
    (rounds : Nat) : CallState :=
  (s.after url ((s.values missing auth rounds).map (carrying request))).asked auth rounds

/-- How a round ends. -/
def round (s : CallState) (missing : Failure) (auth : Auth) (method : String) (url : Url)
    (rounds : Nat) : Except Halt Outcome :=
  match s.resolution missing auth rounds with
  | .ok _ => .ok (s.network.outcomeAt method url (s.values missing auth rounds).length)
  | .error failure => .error (.failed failure)

variable {s : CallState} {missing : Failure} {auth : Auth} {url : Url} {request : Request}

theorem values_succ_of_ok {k : Nat} {value : String}
    (h : s.resolution missing auth k = .ok value) :
    s.values missing auth (k + 1) = s.values missing auth k ++ [value] := by
  simp [values, List.range_succ, h, Except.toOption]

theorem values_succ_of_error {k : Nat} {failure : Failure}
    (h : s.resolution missing auth k = .error failure) :
    s.values missing auth (k + 1) = s.values missing auth k := by
  simp [values, List.range_succ, h, Except.toOption]

/-- As long as the header is resolved, there is one value a round. -/
theorem map_resolution_range {k : Nat} (h : ∀ j < k, ∃ v, s.resolution missing auth j = .ok v) :
    (List.range k).map (s.resolution missing auth) = (s.values missing auth k).map .ok := by
  induction k with
  | zero => rfl
  | succ k ih =>
    obtain ⟨value, hv⟩ := h k (Nat.lt_succ_self k)
    rw [List.range_succ, List.map_append, ih fun j hj => h j (Nat.lt_succ_of_lt hj),
      values_succ_of_ok hv, List.map_append, List.map_singleton, List.map_singleton, hv]

theorem length_values {k : Nat} (h : ∀ j < k, ∃ v, s.resolution missing auth j = .ok v) :
    (s.values missing auth k).length = k := by
  simpa using (congrArg List.length (map_resolution_range h)).symm

/-- A round resolves the header, and makes an attempt if there is one. -/
theorem run_round (hr : request.isAuthorized = false) (hs : url.scheme = "http".toList)
    (k : Nat) :
    (authorized (some (auth.header (issue missing))) request >>= attempt url)
        (s.stage missing auth url request k) =
      (s.round missing auth request.method url k, s.stage missing auth url request (k + 1)) := by
  have ha := authorized_asked hr (s.after url ((s.values missing auth k).map (carrying request)))
    missing auth k
  rw [stage, stage, round]
  cases hv : s.resolution missing auth k with
  | error failure =>
    rw [show (s.after url _).resolution missing auth k = _ from hv] at ha
    rw [Act.run_bind_error ha, values_succ_of_error hv]
  | ok value =>
    rw [show (s.after url _).resolution missing auth k = _ from hv] at ha
    rw [Act.run_bind_ok ha, attempt_asked, attempt_after hs, List.length_map,
      values_succ_of_ok hv, List.map_append, List.map_singleton]
    rfl

theorem stage_zero : s.stage missing auth url request 0 = s := by
  rw [stage, asked_zero]
  exact after_nil s url

theorem resolution_of_again {method : String} {k : Nat}
    (h : Again (s.round missing auth method url k)) :
    ∃ value, s.resolution missing auth k = .ok value := by
  obtain ⟨outcome, ho, -⟩ := h
  rw [round] at ho
  cases hv : s.resolution missing auth k with
  | ok value => exact ⟨value, rfl⟩
  | error failure =>
    rw [hv] at ho
    cases ho

/-- Another round follows one that resolved the header and made an attempt that may be cured. -/
theorem again_round_iff {k : Nat} (h : ∀ j < k, ∃ v, s.resolution missing auth j = .ok v)
    (method : String) : Again (s.round missing auth method url k) ↔
      (∃ value, s.resolution missing auth k = .ok value) ∧
        (s.network.verdictAt method url k).isRetryable = true := by
  constructor
  · intro ha
    obtain ⟨value, hv⟩ := resolution_of_again ha
    rw [round, hv, length_values h] at ha
    exact ⟨⟨value, hv⟩, (again_outcomeAt_iff _ _ _ _).mp ha⟩
  · rintro ⟨⟨value, hv⟩, hr⟩
    rw [round, hv, length_values h]
    exact (again_outcomeAt_iff _ _ _ _).mpr hr

end CallState

/-! ### What goes out -/

/-- A request as it goes out to a URL with nothing changed but its own URL, which is normalised. -/
def addressed (url : Url) (request : Request) : Request :=
  { request with url := { (splitUser url).1 with fragment := none }.text }

/-- A request with credentials keeps all its headers. -/
theorem outgoing_of_isAuthorized {request : Request} (h : request.isAuthorized = true) (url : Url) :
    request.outgoing (splitUser url).1 (splitUser url).2 = addressed url request := by
  unfold Request.outgoing
  split
  · exact if_pos h
  · rfl

theorem isAuthorized_carrying (request : Request) (value : String) :
    (carrying request value).isAuthorized = true := by
  simp [carrying, Request.withHeader, Request.isAuthorized, authorization]

theorem CallState.asked_network (s : CallState) (auth : Auth) (times : Nat) :
    (s.asked auth times).network = s.network := by
  cases auth with
  | apiKey key => rfl
  | oauth2 domain client => by_cases hd : domain = "" <;> simp [asked, hd]

theorem CallState.asked_attempts (s : CallState) (auth : Auth) (times : Nat) :
    (s.asked auth times).attempts = s.attempts := by
  cases auth with
  | apiKey key => rfl
  | oauth2 domain client => by_cases hd : domain = "" <;> simp [asked, hd]

/-- The attempts of a call, as far as they find a connection, are the requests that go out. -/
theorem CallState.sent_after {s : CallState} {url : Url} {requests : List Request}
    (ha : s.network.answers url = true) (h : ∀ r ∈ requests, r.isAuthorized = true) :
    (s.after url requests).network.sent = s.network.sent ++ connected s.network.replies
      (((s.after url requests).attempts.drop s.attempts.length).map (addressed url ·.2)) := by
  have ho : requests.map (·.outgoing (splitUser url).1 (splitUser url).2) =
      requests.map (addressed url) :=
    List.map_congr_left fun r hr => outgoing_of_isAuthorized (h r hr) url
  simp [after, Network.after, ha, ho, Function.comp_def]

/-- Attempts that meet no replies leave the network alone. -/
theorem CallState.network_after {s : CallState} {url : Url} (ha : s.network.answers url = false)
    (requests : List Request) : (s.after url requests).network = s.network := by
  rw [after, Network.after, ha]
  rfl

/-! ### Calls -/

variable {settings : RetrySettings} {request : Request} {s : CallState}

/-- A call with credentials of the caller's asks for no others. -/
theorem fetch_given (hm : settings.maxRetries.toNat < 4294967295)
    (hb : settings.baseDelay ≤ 1000000000000) (missing : Failure)
    (auth : Auth) {url : Url} (hu : Url.parse request.url = .ok url)
    (hs : url.scheme = "http".toList) (hr : request.isAuthorized = true) :
    ∃ i, Decides settings.maxRetries.toNat
        (fun k => (s.network.verdictAt request.method url k).isRetryable = true) i ∧
      fetch settings CallState.attempt (some (auth.header (CallState.issue missing))) request s =
        ((s.network.verdictAt request.method url i).ending settings.maxRetries.toNat,
          s.after url (List.replicate (i + 1) request)) := by
  refine fetch_repeated _ hm hb hu hs fun s => ?_
  simp only [authorized, hr]
  rfl

/-- A call without credentials of the caller's asks for some before each attempt. -/
theorem fetch_resolving (hm : settings.maxRetries.toNat < 4294967295)
    (hb : settings.baseDelay ≤ 1000000000000) (missing : Failure)
    (auth : Auth) {url : Url} (hu : Url.parse request.url = .ok url)
    (hs : url.scheme = "http".toList) (hr : request.isAuthorized = false) :
    ∃ i values,
      Decides settings.maxRetries.toNat
        (fun k => (∃ value, s.resolution missing auth k = .ok value) ∧
          (s.network.verdictAt request.method url k).isRetryable = true) i ∧
      (List.range i).map (s.resolution missing auth) = values.map .ok ∧
      ((∃ value, s.resolution missing auth i = .ok value ∧
        fetch settings CallState.attempt (some (auth.header (CallState.issue missing))) request s =
          ((s.network.verdictAt request.method url i).ending settings.maxRetries.toNat,
            (s.after url ((values ++ [value]).map (carrying request))).asked auth (i + 1))) ∨
      (∃ text, s.resolution missing auth i = .error (.auth text) ∧
        fetch settings CallState.attempt (some (auth.header (CallState.issue missing))) request s =
          (.error (.failed (.auth text)),
            (s.after url (values.map (carrying request))).asked auth (i + 1)))) := by
  have h := fun k => @CallState.run_round s missing auth url request hr hs k
  obtain ⟨i, hi, he⟩ := fetch_decides hm hb hu h
  have hv : ∀ j < i, ∃ value, s.resolution missing auth j = .ok value :=
    fun j hj => CallState.resolution_of_again (hi.before j hj)
  have hiff : ∀ j ≤ i, Again (s.round missing auth request.method url j) ↔
      (∃ value, s.resolution missing auth j = .ok value) ∧
        (s.network.verdictAt request.method url j).isRetryable = true :=
    fun j hj =>
      CallState.again_round_iff (fun l hl => hv l (Nat.lt_of_lt_of_le hl hj)) request.method
  have hd : Decides settings.maxRetries.toNat
      (fun k => (∃ value, s.resolution missing auth k = .ok value) ∧
        (s.network.verdictAt request.method url k).isRetryable = true) i :=
    ⟨hi.within, fun j hj => (hiff j (Nat.le_of_lt hj)).mp (hi.before j hj),
      hi.ends.imp id (mt (hiff i (Nat.le_refl i)).mpr)⟩
  rw [CallState.stage_zero] at he
  refine ⟨i, s.values missing auth i, hd, CallState.map_resolution_range hv, ?_⟩
  cases hres : s.resolution missing auth i with
  | ok value =>
    refine Or.inl ⟨value, rfl, ?_⟩
    rw [he, CallState.round, hres, CallState.stage, CallState.values_succ_of_ok hres, answerOf,
      CallState.length_values hv, Network.verdict_outcomeAt]
  | error failure =>
    obtain ⟨text, rfl⟩ := CallState.resolution_eq_error hres
    refine Or.inr ⟨text, rfl, ?_⟩
    rw [he, CallState.round, hres, CallState.stage, CallState.values_succ_of_error hres, answerOf]

/-- ENDS: a call with authorisation, in the clear. Nothing is done about a text that is no URL. A
    request that has credentials is sent with these, and the source of tokens is not asked. Any
    other request is sent with the value that the header resolves to before each attempt, which is
    asked for once a round; the first round without a value ends the call as a failure to authorise,
    and makes no attempt. In either case the requests go out with the headers that they are
    attempted with, as far as there is a connection for them. -/
theorem fetch_authorised (hm : settings.maxRetries.toNat < 4294967295)
    (hb : settings.baseDelay ≤ 1000000000000) (missing : Failure) (auth : Auth) :
    let retries := settings.maxRetries.toNat
    let resolved := s.resolution missing auth
    let call :=
      fetch settings CallState.attempt (some (auth.header (CallState.issue missing))) request s
    (∀ fault, Url.parse request.url = .error fault →
      call = (.error (.failed (.validation
        ("invalid URL " ++ request.url ++ ": " ++ fault.message))), s)) ∧
    ∀ url, Url.parse request.url = .ok url → url.scheme = "http".toList →
      let verdict := s.network.verdictAt request.method url
      (request.isAuthorized = true →
        ∃ i, Decides retries (fun k => (verdict k).isRetryable = true) i ∧
          call = ((verdict i).ending retries, s.after url (List.replicate (i + 1) request))) ∧
      (request.isAuthorized = false →
        ∃ i values,
          Decides retries
            (fun k => (∃ value, resolved k = .ok value) ∧ (verdict k).isRetryable = true) i ∧
          (List.range i).map resolved = values.map .ok ∧
          ((∃ value, resolved i = .ok value ∧
            call = ((verdict i).ending retries,
              (s.after url ((values ++ [value]).map (carrying request))).asked auth (i + 1))) ∨
          (∃ text, resolved i = .error (.auth text) ∧
            call = (.error (.failed (.auth text)),
              (s.after url (values.map (carrying request))).asked auth (i + 1))))) ∧
      (s.network.answers url = true →
        call.2.network.sent = s.network.sent ++ connected s.network.replies
          ((call.2.attempts.drop s.attempts.length).map (addressed url ·.2))) ∧
      (s.network.answers url = false → call.2.network = s.network) := by
  intro retries resolved call
  refine ⟨fun fault hf => fetch_of_error hf s, ?_⟩
  intro url hu hs verdict
  have given := fetch_given (s := s) hm hb missing auth hu hs
  have resolving := fetch_resolving (s := s) hm hb missing auth hu hs
  have hleft : ∃ requests rounds, call.2 = (s.after url requests).asked auth rounds ∧
      ∀ r ∈ requests, r.isAuthorized = true := by
    cases hr : request.isAuthorized with
    | true =>
      obtain ⟨i, -, he⟩ := given hr
      refine ⟨List.replicate (i + 1) request, 0, ?_, fun r h => List.eq_of_mem_replicate h ▸ hr⟩
      rw [show call = _ from he, CallState.asked_zero]
    | false =>
      have hc : ∀ values : List String, ∀ r ∈ values.map (carrying request),
          r.isAuthorized = true := by
        intro values r h
        obtain ⟨value, -, rfl⟩ := List.mem_map.mp h
        exact isAuthorized_carrying request value
      obtain ⟨i, values, -, -, ⟨value, -, he⟩ | ⟨text, -, he⟩⟩ := resolving hr
      · exact ⟨_, i + 1, congrArg Prod.snd he, hc _⟩
      · exact ⟨_, i + 1, congrArg Prod.snd he, hc _⟩
  obtain ⟨requests, rounds, he, hauthorized⟩ := hleft
  rw [he, CallState.asked_network, CallState.asked_attempts]
  exact ⟨given, resolving, fun ha => CallState.sent_after ha hauthorized,
    fun ha => CallState.network_after ha requests⟩

/-- A second token that cannot be had ends the call behind its first attempt. -/
theorem fetch_authorised_refused :
    let request : Request := ⟨"POST", "http://h/a", [], none⟩
    let url : Url :=
      ⟨"http".toList, some ⟨[], [], .name ['h'], none⟩, .segments [['a']], none, none⟩
    let auth : Auth := .oauth2 "https://t" ⟨"id", "secret"⟩
    let s : CallState :=
      ⟨⟨false, [.response 503 []], []⟩, ⟨[.ok "one", .error (.transport "gone")], []⟩, []⟩
    fetch ⟨3, 100, 10000⟩ CallState.attempt (some (auth.header (CallState.issue (.internal ""))))
        request s =
      (.error (.failed (.auth "Transport error: gone")),
        (s.after url [carrying request "Bearer one"]).asked auth 2) := by
  intro request url auth s
  have hu : Url.parse "http://h/a" = .ok url := rfl
  have h0 : s.resolution (.internal "") auth 0 = .ok "Bearer one" := by rfl
  have h1 : s.resolution (.internal "") auth 1 = .error (.auth "Transport error: gone") := by rfl
  have hc : (s.network.verdictAt request.method url 0).isRetryable = true := by decide
  have h := @fetch_authorised ⟨3, 100, 10000⟩ request s (by decide) (by decide) (.internal "") auth
  obtain ⟨i, values, hd, hv, hcall⟩ := (h.2 url hu rfl).2.1 rfl
  have hi : i = 1 := by
    refine hd.unique ⟨by decide, ?_, Or.inr ?_⟩
    · intro j hj
      obtain rfl : j = 0 := by omega
      exact ⟨⟨_, h0⟩, hc⟩
    · rintro ⟨⟨value, hval⟩, -⟩
      cases h1.symm.trans hval
  subst hi
  have hvs : values = ["Bearer one"] := by
    have hm : [Except.ok "Bearer one"] = values.map (Except.ok (ε := Failure)) := h0 ▸ hv
    match values, hm with
    | [value], hm => cases hm; rfl
  subst hvs
  rcases hcall with ⟨value, hval, -⟩ | ⟨text, htext, he⟩
  · cases h1.symm.trans hval
  · cases h1.symm.trans htext
    exact he

end CallTransfer.Http
