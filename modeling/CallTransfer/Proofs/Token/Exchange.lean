import CallTransfer.Proofs.Secret.Credentials
import CallTransfer.Token.Exchange

/-!
    Exchanges that ASK. An exchange that finds no token asks for one, whoever the client is, as
    there are no credentials that a header could not hold. Whatever else it fails for is put in
    other words: it never says that credentials are unfit, unless its request has met just that
    failure.
-/

namespace CallTransfer.TokenExchange

/-- All credentials are fit. -/
theorem isFit_eq_true (client : Credentials) : isFit client = true := by
  rw [isFit, client.isHeaderValue_basicHeader]

/-! ### What is said of failures -/

/-- What is said of unfit credentials begins with a word of its own. -/
theorem auth_ne_unfit {text : String} (h : text.toList.head? ≠ some 'c') :
    Failure.auth text ≠ unfit := by
  rintro ⟨⟩
  exact h (by decide)

/-- A request that fails is not put in these words, unless it has failed in them. -/
theorem eq_unfit_of_refusal {failure : Failure} (h : refusal failure = unfit) :
    failure = unfit := by
  cases failure with
  | auth text => exact h
  | fatalStatus status body => exact absurd h (auth_ne_unfit (by simp [String.toList_append]))
  | _ => exact absurd h (auth_ne_unfit (by simp [String.toList_append]))

/-- Nor is an answer that grants no token. -/
theorem granted_ne_unfit (body : Bytes) : granted body ≠ .error unfit := by
  unfold granted
  split
  · exact fun h => auth_ne_unfit (by simp [String.toList_append]) (Except.error.inj h)
  · split
    · nofun
    · exact fun h => auth_ne_unfit (by decide) (Except.error.inj h)

/-- Nor is a token that cannot be kept. -/
theorem complete_ne_unfit (desk : TokenDesk) (client : String) (body : Bytes) :
    complete desk client body ≠ .error (.failed unfit) := by
  unfold complete
  split
  · rename_i failure hg
    rintro ⟨⟩
    exact granted_ne_unfit body hg
  · split <;> nofun

/-! ### Issuing -/

section Issue
variable {σ : Type} {fetch : Http.Request → Act σ Bytes} {get : σ → TokenDesk}
  {set : TokenDesk → σ → σ} {domain : String} {client : Credentials} {s t : σ}

/-- An exchange whose look-up finds a token is over. -/
theorem issue_eq_lookup {token : String} (hl : lookup (get s) client.id = some token) :
    issue fetch get set domain client s = (.ok token, s) := by
  simp only [issue, hl]

/-- Any other exchange asks for one. -/
theorem issue_eq_ask (hl : lookup (get s) client.id = none) :
    issue fetch get set domain client s = ask fetch get set domain client s := by
  simp only [issue, hl, isFit_eq_true, if_true]

/-- An exchange that asks says that credentials are unfit only if its request has met that. -/
theorem fetch_of_ask_eq_unfit
    (h : ask fetch get set domain client s = (.error (.failed unfit), t)) :
    fetch (request domain client) s = (.error (.failed unfit), t) := by
  rcases hf : fetch (request domain client) s with ⟨(failure | crash) | body, after⟩
  · simp only [ask, Act.run_rewording_failed hf refusal] at h
    obtain ⟨hresult, rfl⟩ := Prod.mk.inj h
    rw [eq_unfit_of_refusal (Halt.failed.inj (Except.error.inj hresult))]
  · simp only [ask, Act.rewording, hf] at h
    cases h
  · simp only [ask, Act.run_rewording_ok hf refusal] at h
    split at h
    · rename_i hc
      cases h
      exact absurd hc (complete_ne_unfit _ client.id body)
    · cases h

/-- And so does any other exchange. -/
theorem fetch_of_issue_eq_unfit
    (h : issue fetch get set domain client s = (.error (.failed unfit), t)) :
    fetch (request domain client) s = (.error (.failed unfit), t) := by
  cases hl : lookup (get s) client.id with
  | none => exact fetch_of_ask_eq_unfit (issue_eq_ask hl ▸ h)
  | some token =>
    rw [issue_eq_lookup hl] at h
    cases h

end Issue

end CallTransfer.TokenExchange
