import CallTransfer.Proofs.Url.PlainOrigin
import CallTransfer.Token.Exchange
import CallTransfer.Transfer.Request

/-!
    Where requests go. All that is appended to an endpoint is a path: the segments of a method, or
    the place where tokens are issued. Neither the agent's name in it nor blanks and slashes at the
    end of the endpoint can take a request, and the credentials in it, to another origin.
-/

namespace CallTransfer

namespace Transfer

open Url (cut endsInInk segmentsOf unbroken)

/-- The segments of a method's path, as they are put down. -/
def methodSegments (a : AgentName) : Action → List (List Char)
  | .pstnTransfer => ["v1".toList, "customers".toList, a.customer.toList, "profiles".toList,
      a.profile.toList, "virtualAgents".toList, a.id.toList ++ ":generatePSTNTransferData".toList]
  | .handoff => ["v1".toList, "customers".toList, a.customer.toList, "profiles".toList,
      a.profile.toList, "handoffs:fetchAIAgentHandoff".toList]

theorem toList_handoffs : "/handoffs:fetchAIAgentHandoff".toList =
    '/' :: "handoffs:fetchAIAgentHandoff".toList := by
  decide

/-- A method's URL is the endpoint with the segments behind it. -/
theorem toList_url (t : Transfer) (action : Action) :
    (t.url action).toList = (Domain.bare t.domain).toList ++
      (methodSegments t.agent action).flatMap ('/' :: ·) := by
  have hv : "/v1/".toList = '/' :: "v1".toList ++ ['/'] := by decide
  have hc : "customers/".toList = "customers".toList ++ ['/'] := by decide
  have hp : "/profiles/".toList = '/' :: "profiles".toList ++ ['/'] := by decide
  cases action with
  | pstnTransfer =>
    have ha : "/virtualAgents/".toList = '/' :: "virtualAgents".toList ++ ['/'] := by decide
    simp only [url, AgentName.resourceName, methodSegments, String.toList_append, hv, hc, hp, ha,
      List.flatMap_cons, List.flatMap_nil, List.append_assoc, List.cons_append, List.nil_append,
      List.append_nil]
  | handoff =>
    have hvc : "/v1/customers/".toList =
        '/' :: "v1".toList ++ '/' :: "customers".toList ++ ['/'] := by decide
    simp only [url, methodSegments, String.toList_append, hvc, hp, toList_handoffs,
      List.flatMap_cons, List.flatMap_nil, List.append_assoc, List.cons_append, List.nil_append,
      List.append_nil]

/-- What a method's URL ends with. -/
def methodSuffix : Action → String
  | .pstnTransfer => ":generatePSTNTransferData"
  | .handoff => "/handoffs:fetchAIAgentHandoff"

/-- Behind the first slash of a method's path come its segments up to its suffix. -/
theorem exists_flatMap_methodSegments (a : AgentName) (action : Action) :
    ∃ front, (methodSegments a action).flatMap ('/' :: ·) =
      '/' :: (front ++ (methodSuffix action).toList) := by
  cases action with
  | pstnTransfer =>
    refine ⟨"v1".toList ++ List.flatMap ('/' :: ·) ["customers".toList, a.customer.toList,
      "profiles".toList, a.profile.toList, "virtualAgents".toList, a.id.toList], ?_⟩
    simp only [methodSegments, methodSuffix, List.flatMap_cons, List.flatMap_nil, List.append_assoc,
      List.cons_append, List.append_nil]
  | handoff =>
    refine ⟨"v1".toList ++ List.flatMap ('/' :: ·) ["customers".toList, a.customer.toList,
      "profiles".toList, a.profile.toList], ?_⟩
    simp only [methodSegments, methodSuffix, toList_handoffs, List.flatMap_cons, List.flatMap_nil,
      List.append_assoc, List.cons_append, List.append_nil]

theorem endsInInk_methodSuffix (action : Action) :
    endsInInk (methodSuffix action).toList = true := by
  cases action <;> decide

/-- What stands behind an endpoint and its slash in a method's URL. -/
theorem exists_tail (t : Transfer) (action : Action) :
    ∃ tail, (methodSegments t.agent action).flatMap ('/' :: ·) = '/' :: tail ∧
      (t.url action).toList = (Domain.bare t.domain).toList ++ '/' :: tail ∧
      (methodSuffix action).toList <:+ tail ∧ endsInInk ('/' :: tail) = true := by
  obtain ⟨front, hm⟩ := exists_flatMap_methodSegments t.agent action
  exact ⟨_, hm, (toList_url t action).trans (congrArg _ hm), List.suffix_append _ _,
    Url.endsInInk_append ('/' :: front) (endsInInk_methodSuffix action)⟩

/-- A sign that is no slash and is not left out stands behind the endpoint exactly when it was put
    down with a segment. -/
theorem not_mem_tail_iff {ss : List (List Char)} {tail : List Char} {sign : Char}
    (h : ss.flatMap ('/' :: ·) = '/' :: tail) (hs : sign ≠ '/')
    (hl : Url.isLineBlank sign = false) : sign ∉ unbroken tail ↔ ∀ s ∈ ss, sign ∉ s := by
  have hm : sign ∈ tail ↔ sign ∈ ss.flatMap ('/' :: ·) := by
    rw [h, List.mem_cons, or_iff_right hs]
  rw [Url.mem_unbroken_iff hl, hm]
  simp only [List.mem_flatMap, List.mem_cons, hs, false_or, not_exists, not_and]

/-- The URL of a request to a plain origin: scheme and authority are those of the origin, and all
    the rest is read from the segments of the method. -/
theorem parse_request_of_isPlainOrigin {t : Transfer} {base : Url}
    (hp : Url.isPlainOrigin t.domain = true) (hd : Domain.parse t.domain = .ok base)
    (action : Action) :
    ∃ tail, (methodSegments t.agent action).flatMap ('/' :: ·) = '/' :: tail ∧
      (methodSuffix action).toList <:+ tail ∧
      Url.parse (t.request action).url = .ok { base with
        path := .ofSegments (segmentsOf true (cut '?' (cut '#' (unbroken tail)).1).1)
        query := (cut '?' (cut '#' (unbroken tail)).1).2.map
          (Url.Percent.encode Url.Percent.specialQuery)
        fragment := (cut '#' (unbroken tail)).2.map
          (Url.Percent.encode Url.Percent.fragment) } := by
  obtain ⟨tail, hm, ht, hs, he⟩ := exists_tail t action
  exact ⟨tail, hm, hs, Url.parse_append_of_isPlainOrigin hp hd ht he⟩

end Transfer

/-- SAME ORIGIN: every request to the backend, whatever agent it is about, and every request for a
    token have the scheme, the host and the port of the endpoint that was checked. -/
theorem origin_of_requests {domain : String} {base : Url} (hd : Domain.parse domain = .ok base) :
    Url.parse domain = .ok base ∧
      (∀ (t : Transfer) (action : Action) (built : Url), t.domain = domain →
        Url.parse (t.request action).url = .ok built → built.origin = base.origin) ∧
      ∀ (client : Credentials) (built : Url),
        Url.parse (TokenExchange.request domain client).url = .ok built →
          built.origin = base.origin := by
  refine ⟨(Domain.parse_eq_ok_iff.mp hd).2.1, ?_, ?_⟩
  · rintro t action built rfl hb
    obtain ⟨tail, -, ht, -, he⟩ := t.exists_tail action
    obtain ⟨hs, ha⟩ := Domain.authority_of_parse_append hd ht he hb
    exact Url.origin_eq hs ha
  · intro client built hb
    have hp : TokenExchange.path.toList = '/' :: "v1/oauth/regionalToken".toList := by decide
    have ht : (TokenExchange.request domain client).url.toList =
        (Domain.bare domain).toList ++ '/' :: "v1/oauth/regionalToken".toList := by
      rw [← hp]
      exact String.toList_append
    obtain ⟨hs, ha⟩ := Domain.authority_of_parse_append hd ht (by decide) hb
    exact Url.origin_eq hs ha

/-- An agent whose name holds an at sign, a port and backslashes, at an endpoint with a user, a port
    of its own and blanks around it. -/
theorem origin_of_requests_at_sign :
    ∃ (t : Transfer) (base built : Url),
      AgentName.parse "customers/@evil.com:1/profiles/\\\\evil.com/virtualAgents/a?b#c" =
          .ok t.agent ∧
        Domain.parse t.domain = .ok base ∧ Url.parse (t.request .handoff).url = .ok built ∧
        built.origin = base.origin ∧
        base.origin = ⟨"https".toList, some (.name "api.example.com".toList), some 8443⟩ := by
  have hd : (Domain.parse " https://user@API.example.com:8443/ ").map Url.origin =
      .ok ⟨"https".toList, some (.name "api.example.com".toList), some 8443⟩ := by
    decide +kernel
  obtain ⟨base, hd, ho⟩ := Check.map_eq_ok_iff.mp hd
  let t : Transfer := ⟨" https://user@API.example.com:8443/ ",
    ⟨"@evil.com:1", "\\\\evil.com", "a?b#c"⟩, "", "", .empty⟩
  have hb : (Url.parse (t.request .handoff).url).map (·.scheme) = .ok "https".toList := by
    decide +kernel
  obtain ⟨built, hb, -⟩ := Check.map_eq_ok_iff.mp hb
  exact ⟨t, base, built, by decide +kernel, hd, hb,
    (origin_of_requests hd).2.1 t .handoff built rfl hb, ho⟩

end CallTransfer
