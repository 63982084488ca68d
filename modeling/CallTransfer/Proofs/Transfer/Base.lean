import CallTransfer.Proofs.Transfer.Traversal
import CallTransfer.Proofs.Url.Base

/-!
    Endpoints that pass and cannot be used. What is checked is the URL of an endpoint, and what is
    requested is its text, less the slashes at its end, with a path behind it. The two agree on
    everything that an endpoint may have in front of the path, unless the text still ends in a
    blank, in a backslash or in a slash that is not at its very end.
-/

namespace CallTransfer

open Url (IsReadWith endsInSegment isPlainChar unbroken)

/-- Whether a name is made of letters, digits, hyphens and underscores. -/
def AgentName.isPlain (name : String) : Bool :=
  name.toList.all fun c => c.isAlphanum || c == '-' || c == '_'

theorem AgentName.isPlainChar_of_isPlain {name : String} (h : isPlain name = true) :
    ∀ c ∈ name.toList, isPlainChar c = true := by
  intro c hc
  have hp := List.all_eq_true.mp h c hc
  simp only [Bool.or_eq_true, beq_iff_eq] at hp
  rcases hp with (ha | rfl) | rfl
  · rw [isPlainChar, ha, Bool.true_or]
  · decide
  · decide

namespace Transfer

/-- What is put down for an agent with plain names is plain. -/
theorem isPlainChar_methodSegments {a : AgentName} (hc : AgentName.isPlain a.customer = true)
    (hp : AgentName.isPlain a.profile = true) (hi : AgentName.isPlain a.id = true)
    (action : Action) : ∀ s ∈ methodSegments a action, ∀ c ∈ s, isPlainChar c = true := by
  refine forall_mem_methodSegments (AgentName.isPlainChar_of_isPlain hc)
    (AgentName.isPlainChar_of_isPlain hp) (AgentName.isPlainChar_of_isPlain hi) fun c h => ?_
  rcases Bool.or_eq_true_iff.mp h with ha | hs
  · rw [isPlainChar, ha, Bool.true_or]
  · rw [eq_of_beq hs]
    decide

theorem methodSegments_ne_nil (a : AgentName) (action : Action) : methodSegments a action ≠ [] := by
  cases action <;> exact List.cons_ne_nil _ _

end Transfer

/-- The place where tokens are issued, as segments. -/
theorem TokenExchange.toList_path :
    path.toList = ["v1".toList, "oauth".toList, "regionalToken".toList].flatMap ('/' :: ·) := by
  decide

/-- A BASE: of an endpoint that has passed, every request for a token, and every request to the
    backend about an agent with plain names, is read with the path that was written, and with
    nothing behind it, exactly when the endpoint's text, without tabs and line ends and without the
    slashes at its very end, ends in neither a blank nor a slash of either kind. -/
theorem endpoint_usable_iff {domain : String} {base : Url} (hd : Domain.parse domain = .ok base) :
    (∀ client, IsReadWith (TokenExchange.request domain client).url
        "/v1/oauth/regionalToken".toList ↔
      endsInSegment (unbroken (Domain.bare domain).toList) = true) ∧
    ∀ (t : Transfer) (action : Action), t.domain = domain →
      AgentName.isPlain t.agent.customer = true → AgentName.isPlain t.agent.profile = true →
      AgentName.isPlain t.agent.id = true →
        (IsReadWith (t.request action).url
            ((Transfer.methodSegments t.agent action).flatMap ('/' :: ·)) ↔
          endsInSegment (unbroken (Domain.bare domain).toList) = true) := by
  constructor
  · intro client
    have ht : (TokenExchange.request domain client).url.toList = (Domain.bare domain).toList ++
        ["v1".toList, "oauth".toList, "regionalToken".toList].flatMap ('/' :: ·) := by
      rw [← TokenExchange.toList_path]
      exact String.toList_append
    have hall : ["v1".toList, "oauth".toList, "regionalToken".toList].all (·.all isPlainChar) =
        true := by
      decide
    have hp := fun s hs => List.all_eq_true.mp (List.all_eq_true.mp hall s hs)
    have hiff := Url.isReadWith_append_iff hd ht (List.cons_ne_nil _ _) hp
    rwa [← TokenExchange.toList_path] at hiff
  · rintro t action rfl hc hp hi
    exact Url.isReadWith_append_iff hd (t.toList_url action)
      (Transfer.methodSegments_ne_nil t.agent action)
      (Transfer.isPlainChar_methodSegments hc hp hi action)

/-- An endpoint with a blank in front, dot segments and a slash at its end. -/
theorem endpoint_usable_iff_dot_segments :
    ∃ (t : Transfer) (base : Url), Domain.parse t.domain = .ok base ∧
      t.domain = " HTTPS://api.example.com\\a/%2E%2e/" ∧
      IsReadWith (TokenExchange.request t.domain ⟨"id", "secret"⟩).url
        "/v1/oauth/regionalToken".toList ∧
      IsReadWith (t.request .handoff).url
        "/v1/customers/acme/profiles/main_1/handoffs:fetchAIAgentHandoff".toList := by
  let t : Transfer :=
    ⟨" HTTPS://api.example.com\\a/%2E%2e/", ⟨"acme", "main_1", "va-1"⟩, "", "", .empty⟩
  have hd : (Domain.parse t.domain).map (·.scheme) = .ok "https".toList := by decide +kernel
  obtain ⟨base, hd, -⟩ := Check.map_eq_ok_iff.mp hd
  have hends : endsInSegment (unbroken (Domain.bare t.domain).toList) = true := by decide +kernel
  have hpath : (Transfer.methodSegments t.agent .handoff).flatMap ('/' :: ·) =
      "/v1/customers/acme/profiles/main_1/handoffs:fetchAIAgentHandoff".toList := by
    decide +kernel
  obtain ⟨htoken, hmethod⟩ := endpoint_usable_iff hd
  refine ⟨t, base, hd, rfl, (htoken _).mpr hends, ?_⟩
  rw [← hpath]
  exact (hmethod t .handoff rfl (by decide) (by decide) (by decide)).mpr hends

/-- A blank at the end of an endpoint gets into the port, and a backslash there ends a segment. -/
theorem endpoint_usable_iff_blank_behind :
    ∃ (t : Transfer) (base other built : Url),
      Domain.parse t.domain = .ok base ∧ t.domain = "http://localhost:8080 " ∧
        t.agent = ⟨"acme", "main", "va"⟩ ∧ Url.parse (t.request .pstnTransfer).url = .error .port ∧
      Domain.parse "http://localhost:8080\\" = .ok other ∧
        Url.parse (TokenExchange.request "http://localhost:8080\\" ⟨"id", "secret"⟩).url =
          .ok built ∧
        built.pathText = "//v1/oauth/regionalToken".toList := by
  let t : Transfer := ⟨"http://localhost:8080 ", ⟨"acme", "main", "va"⟩, "", "", .empty⟩
  have hd : (Domain.parse t.domain).map (·.scheme) = .ok "http".toList := by decide +kernel
  have ho : (Domain.parse "http://localhost:8080\\").map (·.scheme) = .ok "http".toList := by
    decide +kernel
  have hb : (Url.parse (TokenExchange.request "http://localhost:8080\\"
      ⟨"id", "secret"⟩).url).map Url.pathText = .ok "//v1/oauth/regionalToken".toList := by
    decide +kernel
  have hf : (Url.parse (t.request .pstnTransfer).url).map Url.pathText = .error .port := by
    decide +kernel
  obtain ⟨base, hd, -⟩ := Check.map_eq_ok_iff.mp hd
  obtain ⟨other, ho, -⟩ := Check.map_eq_ok_iff.mp ho
  obtain ⟨built, hb, hpath⟩ := Check.map_eq_ok_iff.mp hb
  refine ⟨t, base, other, built, hd, rfl, rfl, ?_, ho, hb, hpath⟩
  cases hu : Url.parse (t.request .pstnTransfer).url with
  | error fault =>
    rw [hu] at hf
    cases hf
    rfl
  | ok url =>
    rw [hu] at hf
    cases hf

end CallTransfer
