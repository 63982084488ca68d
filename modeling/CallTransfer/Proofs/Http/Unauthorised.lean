import CallTransfer.Proofs.Http.Deciding
import CallTransfer.Proofs.Http.CallState

/-!
    Calls without authorisation. All attempts of such a call are made with the request of the
    caller; the first verdict that trying again does not cure is REPORTED, or else the last one.
-/

namespace CallTransfer.Http

/-- A verdict is given again by a further attempt exactly where the outcome of its own is. -/
theorem again_outcomeAt_iff (n : Network) (method : String) (url : Url) (k : Nat) :
    Again (.ok (n.outcomeAt method url k)) ↔ (n.verdictAt method url k).isRetryable = true := by
  rw [← Network.verdict_outcomeAt, Outcome.isRetryable_verdict]
  constructor
  · rintro ⟨outcome, ho, hr⟩
    cases ho
    exact hr
  · exact fun hr => ⟨_, rfl, hr⟩

theorem Verdict.eq_retryable {v : Verdict} (h : v.isRetryable = true) :
    ∃ cause, v = .retryable cause := by
  cases v with
  | retryable cause => exact ⟨cause, rfl⟩
  | success body => cases h
  | fatal status body => cases h

theorem Verdict.ending_eq_error {v : Verdict} {retries : Nat} {halt : Halt}
    (h : v.ending retries = .error halt) :
    (∃ status body, halt = .failed (.fatalStatus status body)) ∨
      ∃ cause, halt = .failed (.retriesExhausted (retries + 1) cause) := by
  cases v with
  | success body => cases h
  | retryable cause => cases h; exact Or.inr ⟨cause, rfl⟩
  | fatal status body => cases h; exact Or.inl ⟨status, body, rfl⟩

variable {settings : RetrySettings} {request : Request} {url : Url} {s : CallState}

/-- A call that makes every attempt with the request of its caller is decided by the first verdict
    that trying again does not cure, or else by the last one. -/
theorem fetch_repeated (authorize : Option (Act CallState String))
    (hm : settings.maxRetries.toNat < 4294967295) (hb : settings.baseDelay ≤ 1000000000000)
    (hu : Url.parse request.url = .ok url) (hs : url.scheme = "http".toList)
    (ha : ∀ s, authorized authorize request s = (.ok request, s)) :
    ∃ i, Decides settings.maxRetries.toNat
        (fun k => (s.network.verdictAt request.method url k).isRetryable = true) i ∧
      fetch settings CallState.attempt authorize request s =
        ((s.network.verdictAt request.method url i).ending settings.maxRetries.toNat,
          s.after url (List.replicate (i + 1) request)) := by
  have h : ∀ k, (authorized authorize request >>= CallState.attempt url)
      (s.after url (List.replicate k request)) =
        (.ok (s.network.outcomeAt request.method url k),
          s.after url (List.replicate (k + 1) request)) := by
    intro k
    rw [Act.run_bind_ok (ha _), CallState.attempt_after hs, List.length_replicate,
      ← List.replicate_succ']
  obtain ⟨i, hi, he⟩ := fetch_decides hm hb hu h
  simp only [again_outcomeAt_iff] at hi
  rw [List.replicate_zero, CallState.after_nil] at he
  exact ⟨i, hi, by rw [he, answerOf, Network.verdict_outcomeAt]⟩

/-- REPORTED: a call in the clear makes attempts, all with the same request, up to the first verdict
    that trying again does not cure, and no more; if there is no such verdict it makes one attempt
    and `maxRetries` more and reports the last one's cause. Neither an exchange that broke off, nor
    one that there was no connection for, nor a status that may pass is ever reported by itself, and
    nothing crashes. What has gone out is the same request once an attempt, but for the attempts
    that found no connection; and no reply is consumed beyond these. -/
theorem fetch_unauthorised (hm : settings.maxRetries.toNat < 4294967295)
    (hb : settings.baseDelay ≤ 1000000000000) (hu : Url.parse request.url = .ok url)
    (hs : url.scheme = "http".toList) :
    let retries := settings.maxRetries.toNat
    let verdict := s.network.verdictAt request.method url
    let call := fetch settings CallState.attempt none request s
    (∀ i ≤ retries, (∀ j < i, (verdict j).isRetryable = true) → (verdict i).isRetryable = false →
      call = ((verdict i).ending retries, s.after url (List.replicate (i + 1) request))) ∧
    ((∀ j ≤ retries, (verdict j).isRetryable = true) →
      ∃ cause, verdict retries = .retryable cause ∧
        call = (.error (.failed (.retriesExhausted (retries + 1) cause)),
          s.after url (List.replicate (retries + 1) request))) ∧
    (∀ halt, call.1 = .error halt →
      (∃ status body, halt = .failed (.fatalStatus status body)) ∨
        ∃ cause, halt = .failed (.retriesExhausted (retries + 1) cause)) ∧
    ∃ made, call.2.attempts = s.attempts ++ List.replicate made (url, request) ∧
      (s.network.answers url = true →
        call.2.network.sent = s.network.sent ++
          List.replicate (made - (s.network.replies.take made).count .unreached)
            (request.outgoing (splitUser url).1 (splitUser url).2) ∧
        call.2.network.replies = s.network.replies.drop made) ∧
      (s.network.answers url = false → call.2.network = s.network) := by
  intro retries verdict call
  obtain ⟨i, hi, he⟩ := fetch_repeated none hm hb hu hs fun _ => rfl
  refine ⟨?_, ?_, ?_, ?_⟩
  · intro k hk hbefore hend
    have hd : Decides retries (fun k => (verdict k).isRetryable = true) k :=
      ⟨hk, hbefore, Or.inr (by rw [hend]; nofun)⟩
    rw [hd.unique hi]
    exact he
  · intro hall
    have hd : Decides retries (fun k => (verdict k).isRetryable = true) retries :=
      ⟨Nat.le_refl _, fun j hj => hall j (Nat.le_of_lt hj), Or.inl rfl⟩
    rw [← hd.unique hi] at he
    obtain ⟨cause, hc⟩ := Verdict.eq_retryable (hall retries (Nat.le_refl _))
    refine ⟨cause, hc, he.trans ?_⟩
    rw [show s.network.verdictAt request.method url retries = _ from hc]
    rfl
  · intro halt hh
    have hc : call.1 = (verdict i).ending retries := congrArg Prod.fst he
    exact Verdict.ending_eq_error (hc.symm.trans hh)
  · have hc : call.2 = s.after url (List.replicate (i + 1) request) := congrArg Prod.snd he
    rw [hc]
    refine ⟨i + 1, ?_, fun hanswers => ?_, fun hanswers => ?_⟩
    · rw [CallState.after, List.map_replicate]
    · rw [CallState.after, Network.after_replicate hanswers]
      exact ⟨rfl, rfl⟩
    · rw [CallState.after, Network.after, hanswers]
      rfl

/-- A connection that cannot be made, a status that may pass and a body that breaks off are followed
    by a response with all of its body; the status is one of success, if not the usual one. -/
theorem fetch_unauthorised_flaky :
    let request : Request := ⟨"POST", "http://h/a", [], none⟩
    let url : Url :=
      ⟨"http".toList, some ⟨[], [], .name ['h'], none⟩, .segments [['a']], none, none⟩
    let s : CallState := ⟨⟨false, [.unreached, .response 503 [], .truncated 200,
      .response 205 [0x6F], .closed], []⟩, ⟨[], []⟩, []⟩
    fetch ⟨3, 100, 10000⟩ CallState.attempt none request s =
      (.ok [0x6F], s.after url [request, request, request, request]) := by
  intro request url s
  have hu : Url.parse "http://h/a" = .ok url := rfl
  have hbefore : ∀ j < 3, (s.network.verdictAt "POST" url j).isRetryable = true := by decide
  have hend : (s.network.verdictAt "POST" url 3).isRetryable = false := by decide
  have h := @fetch_unauthorised ⟨3, 100, 10000⟩ request url s (by decide) (by decide) hu rfl
  exact h.1 3 (by decide) hbefore hend

end CallTransfer.Http
