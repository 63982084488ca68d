import CallTransfer.Halt
import CallTransfer.Http.Network

/-!
    What an attempt comes to, told from the method of its request and the reply that it meets. A
    reply is a SUCCESS when a status of 2xx comes with its whole body; it is FATAL when the status
    is neither that nor one that may pass; everything else can be cured by trying again, and leaves
    behind only its cause. Whether a body belongs to a response is a matter of FRAMING: some
    responses end with their head, whatever follows it.
-/

namespace CallTransfer.Http

/-- What an attempt comes to. -/
inductive Verdict where
  | success (body : Bytes)
  | retryable (cause : String)
  | fatal (status : Nat) (body : String)
  deriving DecidableEq, Repr

namespace Verdict

/-- Whether trying again may help. -/
def isRetryable : Verdict → Bool
  | retryable _ => true
  | _ => false

/-- What a status comes to that is none of success. -/
def ofStatus (status : Nat) (body : String) : Verdict :=
  if status = 408 ∨ status = 429 ∨ 500 ≤ status ∧ status ≤ 599 then
    retryable ("retryable status: " ++ toString status)
  else fatal status body

/-- What a whole response comes to. -/
def ofWhole (status : Nat) (body : Bytes) : Verdict :=
  if 200 ≤ status ∧ status ≤ 299 then success body
  else ofStatus status (Text.Utf8.decodeLossy body)

/-- What an exchange comes to that broke off. -/
def ofFault (text : String) : Verdict := retryable ("transport error: " ++ text)

/-- What an exchange with a URL comes to that broke off before there was a reply. -/
def unsent (what : String) (url : Url) (kind : String) : Verdict :=
  ofFault (what ++ " for url (" ++ url.text ++ ") (" ++ kind ++ ")")

/-- What a call comes to whose last attempt came to a verdict, with so many retries at most. -/
def ending (retries : Nat) : Verdict → Except Halt Bytes
  | success body => .ok body
  | retryable cause => .error (.failed (.retriesExhausted (retries + 1) cause))
  | fatal status body => .error (.failed (.fatalStatus status body))

end Verdict

/-! ### Framing -/

/-- Whether a response to a method ends with its head: it answers HEAD, or it is informational, or
    it has no content, or nothing has been modified, or what follows it is a tunnel. -/
def EndsWithHead (method : String) (status : Nat) : Prop :=
  method = "HEAD" ∨ (100 ≤ status ∧ status ≤ 199) ∨ status = 204 ∨ status = 304 ∨
    method = "CONNECT" ∧ 200 ≤ status ∧ status ≤ 299

instance (method : String) (status : Nat) : Decidable (EndsWithHead method status) :=
  inferInstanceAs (Decidable (_ ∨ _))

/-- What an attempt at a URL comes to that meets a reply, or none where a reply should be. -/
def Reply.verdict (method : String) (url : Url) : Option Reply → Verdict
  | some (.response status body) =>
    .ofWhole status (if EndsWithHead method status then [] else body)
  | some (.truncated status) =>
    if EndsWithHead method status then .ofWhole status []
    else if 200 ≤ status ∧ status ≤ 299 then
      .ofFault "error reading body: error decoding response body"
    else .ofStatus status ""
  | some .unreached => .unsent "error sending request" url "connection_failed"
  | some .silent => .unsent "error sending request" url "timeout"
  | some .closed | none => .unsent "error sending request" url "request_error"

/-- Whether a reply to a method is a whole response, which has a status and a body. -/
inductive Reply.IsWhole (method : String) : Reply → Nat → Bytes → Prop
  | response (h : ¬ EndsWithHead method status) : IsWhole method (.response status body) status body
  | bare (h : EndsWithHead method status) : IsWhole method (.response status body) status []
  | cut (h : EndsWithHead method status) : IsWhole method (.truncated status) status []

/-- What an outcome comes to. -/
def Outcome.verdict : Outcome → Verdict
  | success body => .success body
  | interrupted text => .ofFault text
  | refused status body => .ofStatus status body

/-! ### Outcomes and verdicts -/

theorem Verdict.ofStatus_of_mayPass {status : Nat} (h : mayPass status = true) (body : String) :
    ofStatus status body = .retryable ("retryable status: " ++ toString status) := by
  rw [ofStatus, if_pos ((mayPass_iff status).mp h)]

theorem Verdict.ofStatus_of_not_mayPass {status : Nat} (h : mayPass status = false)
    (body : String) : ofStatus status body = .fatal status body := by
  rw [ofStatus, if_neg (mt (mayPass_iff status).mpr (Bool.eq_false_iff.mp h))]

/-- The same outcomes and verdicts can be cured by trying again. -/
theorem Outcome.isRetryable_verdict (o : Outcome) : o.verdict.isRetryable = o.isRetryable := by
  cases o with
  | success body => rfl
  | interrupted text => rfl
  | refused status body =>
    rw [isRetryable_refused, verdict]
    cases h : mayPass status with
    | true => rw [Verdict.ofStatus_of_mayPass h, Verdict.isRetryable]
    | false => rw [Verdict.ofStatus_of_not_mayPass h, Verdict.isRetryable]; nofun

/-- An outcome that can be cured leaves its cause behind. -/
theorem Outcome.verdict_of_isRetryable {o : Outcome} (h : o.isRetryable = true) :
    o.verdict = .retryable o.cause := by
  cases o with
  | success body => cases h
  | interrupted text => rw [verdict, Verdict.ofFault, cause_interrupted]
  | refused status body =>
    rw [isRetryable_refused] at h
    rw [verdict, Verdict.ofStatus_of_mayPass h, cause_refused]

/-- An outcome that cannot be cured ends a call with its own result. -/
theorem Outcome.ending_of_not_isRetryable {o : Outcome} (h : o.isRetryable = false)
    (retries : Nat) :
    o.verdict.ending retries = match o.result with
      | .ok body => .ok body
      | .error failure => .error (.failed failure) := by
  cases o with
  | success body => rfl
  | interrupted text => cases h
  | refused status body =>
    rw [isRetryable_refused] at h
    rw [verdict, Verdict.ofStatus_of_not_mayPass h]
    rfl

theorem isSuccess_iff (status : Nat) : isSuccess status = true ↔ 200 ≤ status ∧ status ≤ 299 := by
  simp [isSuccess]

/-- The bodies that are read are those that belong to a response. -/
theorem hasBody_iff (method : String) (status : Nat) :
    hasBody method status = true ↔ ¬ EndsWithHead method status := by
  have hinformational : status / 100 = 1 ↔ 100 ≤ status ∧ status ≤ 199 := by omega
  simp only [hasBody, Bool.not_eq_true', Bool.eq_false_iff, Bool.or_eq_true, Bool.and_eq_true,
    beq_iff_eq, isSuccess_iff, hinformational, EndsWithHead, ne_eq]
  grind

theorem Outcome.verdict_ofWhole (status : Nat) (body : Bytes) :
    (ofWhole status body).verdict = .ofWhole status body := by
  simp only [ofWhole, Verdict.ofWhole, isSuccess_iff]
  split <;> rfl

/-- No body is read behind a head that a response ends with. -/
theorem hasBody_eq_false_iff (method : String) (status : Nat) :
    hasBody method status = false ↔ EndsWithHead method status := by
  rw [← Bool.not_eq_true, hasBody_iff, Decidable.not_not]

/-! ### Whole responses -/

/-- A reply is a whole response, or one that is cut off before its body, or none. -/
theorem Reply.whole_or_cut (method : String) (reply : Reply) :
    (∃ status body, reply.IsWhole method status body) ∨
      (∃ status, reply = .truncated status ∧ ¬ EndsWithHead method status) ∨
        reply = .unreached ∨ reply = .closed ∨ reply = .silent := by
  cases reply with
  | response status body =>
    by_cases h : EndsWithHead method status
    · exact Or.inl ⟨status, [], .bare h⟩
    · exact Or.inl ⟨status, body, .response h⟩
  | truncated status =>
    by_cases h : EndsWithHead method status
    · exact Or.inl ⟨status, [], .cut h⟩
    · exact Or.inr (Or.inl ⟨status, rfl, h⟩)
  | unreached => simp
  | closed => simp
  | silent => simp

/-- A whole response is the outcome of the attempt that meets it. -/
theorem Reply.IsWhole.outcome_eq {method : String} {reply : Reply} {status : Nat} {body : Bytes}
    (h : reply.IsWhole method status body) (url : Url) :
    Reply.outcome method url (some reply) = .ofWhole status body := by
  cases h with
  | response h => rw [outcome, (hasBody_iff method status).mpr h, if_pos rfl]
  | bare h => rw [outcome, (hasBody_eq_false_iff method status).mpr h, if_neg Bool.false_ne_true]
  | cut h => rw [outcome, (hasBody_eq_false_iff method status).mpr h, Bool.not_false, if_pos rfl]

/-- It is also what that attempt comes to. -/
theorem Reply.IsWhole.verdict_eq {method : String} {reply : Reply} {status : Nat} {body : Bytes}
    (h : reply.IsWhole method status body) (url : Url) :
    Reply.verdict method url (some reply) = .ofWhole status body := by
  cases h with
  | response h => rw [verdict, if_neg h]
  | bare h => rw [verdict, if_pos h]
  | cut h => rw [verdict, if_pos h]

/-- A response that is cut off before its body counts as an exchange that broke off if its status is
    one of success, and is refused without a body otherwise. -/
theorem Reply.outcome_truncated {method : String} {status : Nat} (h : ¬ EndsWithHead method status)
    (url : Url) : Reply.outcome method url (some (.truncated status)) =
      if 200 ≤ status ∧ status ≤ 299 then
        .interrupted "error reading body: error decoding response body"
      else .refused status "" := by
  rw [outcome, (hasBody_iff method status).mpr h, Bool.not_true, if_neg Bool.false_ne_true]
  simp only [isSuccess_iff]

/-- The outcome of an attempt that meets a reply comes to what the reply comes to. -/
theorem Reply.verdict_outcome (method : String) (url : Url) (reply : Option Reply) :
    (Reply.outcome method url reply).verdict = Reply.verdict method url reply := by
  cases reply with
  | none => rfl
  | some reply =>
    rcases reply.whole_or_cut method with
      ⟨status, body, hw⟩ | ⟨status, rfl, hc⟩ | rfl | rfl | rfl
    · rw [hw.outcome_eq, hw.verdict_eq, Outcome.verdict_ofWhole]
    · rw [outcome_truncated hc, verdict, if_neg hc]
      split <;> rfl
    · rfl
    · rfl
    · rfl

/-! ### Successes -/

/-- Exchanges that broke off while a request was sent are told apart by what kind they are of. -/
theorem notSent_inj {url : Url} {kind other : String} (h : notSent url kind = notSent url other) :
    kind = other := by
  have ht := congrArg String.toList (Outcome.interrupted.inj h)
  simp only [String.toList_append] at ht
  have hkind := List.append_cancel_right ht
  exact String.toList_inj.mp (List.append_cancel_left hkind)

theorem Outcome.ofWhole_ne_unconnected (status : Nat) (body : Bytes) (url : Url) :
    ofWhole status body ≠ unconnected url := by
  rw [ofWhole]
  split <;> nofun

/-- An attempt finds no connection exactly if that is the reply that it meets. -/
theorem Reply.outcome_eq_unconnected_iff {method : String} {url : Url} {reply : Option Reply} :
    Reply.outcome method url reply = unconnected url ↔ reply = some .unreached := by
  refine ⟨fun h => ?_, fun h => h ▸ rfl⟩
  cases reply with
  | none => exact absurd (notSent_inj h) (by decide)
  | some reply =>
    rcases reply.whole_or_cut method with
      ⟨status, body, hw⟩ | ⟨status, rfl, hc⟩ | rfl | rfl | rfl
    · exact absurd ((hw.outcome_eq url).symm.trans h) (Outcome.ofWhole_ne_unconnected _ _ url)
    · rw [outcome_truncated hc] at h
      split at h
      · -- the texts of the two already differ in how they begin
        have ht := congrArg String.toList (Outcome.interrupted.inj h)
        simp only [String.toList_append, List.append_assoc] at ht
        have hbegins : "error sending request".toList <+:
            "error reading body: error decoding response body".toList := ⟨_, ht.symm⟩
        exact absurd hbegins (by decide)
      · cases h
    · rfl
    · exact absurd (notSent_inj h) (by decide)
    · exact absurd (notSent_inj h) (by decide)

end CallTransfer.Http
