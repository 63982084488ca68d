import CallTransfer.Proofs.Http.Authorised
import CallTransfer.Proofs.Walk

/-!
    Calls as they go. A call WALKS through rounds that trying again may cure, to the one that it
    comes to; and what goes over the network in between are attempts, one after the other. This is
    told for any call, however its requests are authorised, and whether or not a pause crashes.
-/

namespace CallTransfer.Http

/-! ### Attempts over a network -/

/-- An attempt that has been made, and how it ended. -/
structure Attempt where
  url : Url
  request : Request
  outcome : Outcome

/-- Whether an attempt goes out: its URL is one that can be requested at all, and there is a
    connection for it. -/
def Attempt.goesOut (a : Attempt) : Bool :=
  isRequestable (splitUser a.url).1 && a.outcome != unconnected (splitUser a.url).1

namespace Network

variable {n after : Network} {a : Attempt} {attempts : List Attempt}

/-- Whether this is how an attempt ends over a network, and how it leaves that. -/
def Meets (n : Network) (a : Attempt) (after : Network) : Prop :=
  attempt a.url a.request n = (a.outcome, after)

/-- An attempt finds its URL beyond request, or no connection, or it meets a reply. -/
theorem Meets.cases (h : n.Meets a after) :
    (isRequestable (splitUser a.url).1 = false ∧
      a.outcome = broken "builder error" (splitUser a.url).1 "unknown" ∧ after = n) ∨
    (isRequestable (splitUser a.url).1 = true ∧ a.outcome = unconnected (splitUser a.url).1 ∧
      after = n) ∨
    (isRequestable (splitUser a.url).1 = true ∧
      meet (splitUser a.url).1 (a.request.outgoing (splitUser a.url).1 (splitUser a.url).2) n =
        (a.outcome, after)) := by
  cases hr : isRequestable (splitUser a.url).1 with
  | false =>
    obtain ⟨ho, hafter⟩ := Prod.mk.inj ((attempt_of_not_isRequestable hr a.request).symm.trans h)
    exact Or.inl ⟨rfl, ho.symm, hafter.symm⟩
  | true =>
    by_cases hc : n.isolated = true ∨ a.url.scheme = "https".toList
    · obtain ⟨ho, hafter⟩ := Prod.mk.inj ((attempt_of_not_isOpen hr hc a.request).symm.trans h)
      exact Or.inr (Or.inl ⟨rfl, ho.symm, hafter.symm⟩)
    · rw [not_or] at hc
      have ha : n.answers a.url = true := answers_iff.mpr ⟨hr, Bool.eq_false_iff.mpr hc.1⟩
      exact Or.inr (Or.inr ⟨rfl, (attempt_of_answers ha hc.2 a.request).symm.trans h⟩)

/-- An attempt leaves its request behind, if it is one that goes out. -/
theorem Meets.sent (h : n.Meets a after) (ha : a.request.isAuthorized = true) :
    after.sent = n.sent ++ if a.goesOut then [addressed a.url a.request] else [] := by
  rcases h.cases with ⟨hr, -, rfl⟩ | ⟨-, ho, rfl⟩ | ⟨hr, hm⟩
  · rw [Attempt.goesOut, hr, Bool.false_and, if_neg nofun, List.append_nil]
  · rw [Attempt.goesOut, ho, bne_self_eq_false, Bool.and_false, if_neg nofun, List.append_nil]
  · obtain ⟨ho, rfl⟩ := Prod.mk.inj hm
    rw [Attempt.goesOut, hr, Bool.true_and, ← ho]
    by_cases hu : n.replies.head? = some .unreached
    · rw [Reply.outcome_eq_unconnected_iff.mpr hu, bne_self_eq_false, if_pos hu]
      exact (List.append_nil n.sent).symm
    · rw [bne_iff_ne.mpr (mt Reply.outcome_eq_unconnected_iff.mp hu), if_neg hu,
        outgoing_of_isAuthorized ha]
      rfl

/-- What has been left behind are the requests of the attempts that go out, in their order. -/
theorem sent_of_walk (h : Walk Meets n attempts after)
    (ha : ∀ a ∈ attempts, a.request.isAuthorized = true) :
    after.sent = n.sent ++
      (attempts.filter (·.goesOut)).map fun a => addressed a.url a.request := by
  induction h with
  | nil n => exact (List.append_nil n.sent).symm
  | @cons n m after a attempts first rest ih =>
    have hfirst := first.sent (ha a (List.mem_cons_self ..))
    rw [ih fun b hb => ha b (List.mem_cons_of_mem a hb), hfirst, List.append_assoc,
      List.filter_cons]
    split <;> rfl

end Network

/-! ### Bodies -/

/-- The body that an attempt gets. -/
def Outcome.body? : Outcome → Option Bytes
  | .success body => some body
  | .interrupted _ | .refused _ _ => none

/-- The body that the last of some attempts gets. -/
def lastBody? (attempts : List Attempt) : Option Bytes :=
  attempts.getLast?.bind (·.outcome.body?)

theorem lastBody?_concat (attempts : List Attempt) (a : Attempt) :
    lastBody? (attempts ++ [a]) = a.outcome.body? := by
  rw [lastBody?, List.getLast?_concat]
  rfl

/-- Attempts that trying again may cure get no body. -/
theorem lastBody?_of_forall_isRetryable {attempts : List Attempt}
    (h : ∀ a ∈ attempts, a.outcome.isRetryable = true) : lastBody? attempts = none := by
  rcases List.eq_nil_or_concat attempts with rfl | ⟨before, last, rfl⟩
  · rfl
  · rw [List.concat_eq_append] at h ⊢
    have hlast := h last (List.mem_append_right before (List.mem_singleton_self last))
    rw [lastBody?_concat]
    cases ho : last.outcome with
    | success body =>
      rw [ho] at hlast
      cases hlast
    | interrupted text => rfl
    | refused status text => rfl

/-- A call gets the body that the round gets that it ends with. -/
theorem toOption_concluded (attempts : Nat) (outcome : Outcome) :
    (concluded attempts (.ok outcome)).toOption = outcome.body? := by
  cases outcome with
  | success body => rfl
  | interrupted text => rfl
  | refused status text =>
    rw [concluded]
    split <;> rfl

/-! ### Rounds -/

variable {once : Act σ Outcome} {s t : σ}

/-- Whether a round ends in a way that trying again may cure, and how it leaves the state. -/
def Retried (once : Act σ Outcome) (s : σ) (outcome : Outcome) (t : σ) : Prop :=
  once s = (.ok outcome, t) ∧ outcome.isRetryable = true

/-- A pause changes nothing, or it crashes. -/
theorem waitFor_cases (base made : Nat) (s : σ) :
    (waitFor base made : Act σ Unit) s = (.ok (), s) ∨
      (waitFor base made : Act σ Unit) s = (.error (.crashed .delay), s) := by
  unfold waitFor
  split
  · cases hd : Backoff.middleDelay (.ofNat (made - 1)) (.ofMilliseconds (.ofNat base)) with
    | ok delay => exact Or.inl rfl
    | error crash =>
      rw [(Backoff.lengthen_eq_error_iff.mp hd).1]
      exact Or.inr rfl
  · exact Or.inl rfl

/-- WALK: rounds that trying again may cure lead to one that it does not cure or to the last one,
    and come to what that comes to, unless a pause crashes on the way. -/
theorem repeatFrom_walk (base : Nat) (once : Act σ Outcome) (left made : Nat) (s : σ) :
    ∃ outcomes v, Walk (Retried once) s outcomes v ∧ outcomes.length ≤ left ∧
      (repeatFrom base once left made s = (.error (.crashed .delay), v) ∨
        repeatFrom base once left made s = once v ∧
          (outcomes.length = left ∨ ¬ Again (once v).1)) := by
  induction left generalizing made s with
  | zero =>
    refine ⟨[], s, .nil s, Nat.le_refl 0, ?_⟩
    rcases waitFor_cases base made s with hw | hw
    · exact Or.inr ⟨repeatFrom_ends hw rfl (Or.inl rfl), Or.inl rfl⟩
    · exact Or.inl (Act.run_bind_error hw _)
  | succ left ih =>
    rcases waitFor_cases base made s with hw | hw
    · by_cases ha : Again (once s).1
      · obtain ⟨outcome, ho, hr⟩ := ha
        have hround : once s = (.ok outcome, (once s).2) := Prod.ext ho rfl
        obtain ⟨outcomes, v, hwalk, hlength, hends⟩ := ih (made + 1) (once s).2
        refine ⟨outcome :: outcomes, v, .cons ⟨hround, hr⟩ hwalk, Nat.succ_le_succ hlength, ?_⟩
        rw [repeatFrom_again hw hround hr]
        exact hends.imp id (And.imp id (Or.imp (congrArg (· + 1)) id))
      · exact ⟨[], s, .nil s, Nat.zero_le _,
          Or.inr ⟨repeatFrom_ends hw rfl (Or.inr ha), Or.inr ha⟩⟩
    · exact ⟨[], s, .nil s, Nat.zero_le _, Or.inl (Act.run_bind_error hw _)⟩

/-- WALK: a call for a URL goes through rounds that trying again may cure, and comes to what the
    round comes to that it ends with, unless a pause crashes on the way. -/
theorem fetch_walk (settings : RetrySettings) (attempt : Url → Request → Act σ Outcome)
    (authorize : Option (Act σ String)) {request : Request} {url : Url}
    (hu : Url.parse request.url = .ok url) (s : σ) :
    ∃ outcomes v, Walk (Retried (authorized authorize request >>= attempt url)) s outcomes v ∧
      outcomes.length ≤ settings.maxRetries.toNat ∧
      (fetch settings attempt authorize request s = (.error (.crashed .delay), v) ∨
        ∃ round t, (authorized authorize request >>= attempt url) v = (round, t) ∧
          fetch settings attempt authorize request s =
            (concluded (settings.maxRetries + 1).toNat round, t) ∧
          (outcomes.length = settings.maxRetries.toNat ∨ ¬ Again round)) := by
  obtain ⟨outcomes, v, hwalk, hlength, hends⟩ := repeatFrom_walk settings.baseDelay
    (authorized authorize request >>= attempt url) settings.maxRetries.toNat 0 s
  refine ⟨outcomes, v, hwalk, hlength, ?_⟩
  rcases hends with hc | ⟨he, hlast⟩
  · exact Or.inl (fetch_of_rounds hu hc)
  · exact Or.inr ⟨_, _, rfl, fetch_of_rounds hu he, hlast⟩

end CallTransfer.Http
