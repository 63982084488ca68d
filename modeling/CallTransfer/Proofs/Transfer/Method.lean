import CallTransfer.Http.Retry
import CallTransfer.Proofs.Transfer.Endpoint
import CallTransfer.Proofs.Url.Path

/-!
    Which method is called. At a plain origin the request's path ends with the method's own suffix,
    and nothing comes behind it, unless a question mark or a number sign is put down with the
    agent's name: these two are fit for a segment, and the URL's path ends at the first of them.
-/

namespace CallTransfer

/-- The URL of a request is read once: every attempt is made at what it is read as. -/
theorem Http.fetch_of_parse {request : Request} {built : Url}
    (h : Url.parse request.url = .ok built) (settings : RetrySettings)
    (attempt : Url → Request → Act σ Outcome) (authorize : Option (Act σ String)) :
    fetch settings attempt authorize request =
      fetch settings (fun _ => attempt built) authorize request := by
  unfold fetch
  rw [h]
  rfl

namespace Transfer

open Url (cut isSlash segmentsOf unbroken)
open Url.Path (isDot)

/-- A path that ends with the suffix of a method is read as one that does. -/
theorem methodSuffix_suffix_render (action : Action) (front : List Char) :
    (methodSuffix action).toList <:+
      (Url.Path.ofSegments (segmentsOf true (front ++ (methodSuffix action).toList))).render := by
  cases action with
  | pstnTransfer =>
    have hs : ∀ c ∈ (methodSuffix .pstnTransfer).toList, isSlash true c = false :=
      Text.forall_of_all (by decide)
    obtain ⟨before, last, hl⟩ := Url.exists_segmentsOf_append front hs
    have hd : isDot (last ++ (methodSuffix .pstnTransfer).toList) = false :=
      Url.Path.isDot_of_mem (List.mem_append_right last (by decide : ':' ∈ _)) (by decide)
    have he : Url.Percent.encode Url.Percent.path (methodSuffix .pstnTransfer).toList =
        (methodSuffix .pstnTransfer).toList := by
      decide
    obtain ⟨path, hr⟩ := Url.Path.exists_render_ofSegments_concat hd before
    rw [hl, hr, Url.Percent.encode_append, he]
    refine ⟨path ++ '/' :: Url.Percent.encode Url.Percent.path last, ?_⟩
    rw [List.append_assoc, List.cons_append]
  | handoff =>
    have hm : (methodSuffix .handoff).toList = '/' :: "handoffs:fetchAIAgentHandoff".toList :=
      toList_handoffs
    have hs : ∀ c ∈ "handoffs:fetchAIAgentHandoff".toList, isSlash true c = false :=
      Text.forall_of_all (by decide)
    have hd : isDot "handoffs:fetchAIAgentHandoff".toList = false := by decide
    have he : Url.Percent.encode Url.Percent.path "handoffs:fetchAIAgentHandoff".toList =
        "handoffs:fetchAIAgentHandoff".toList := by
      decide
    obtain ⟨path, hr⟩ := Url.Path.exists_render_ofSegments_concat hd (segmentsOf true front)
    rw [hm, Url.segmentsOf_append_cons rfl, Url.segmentsOf_of_forall hs, hr, he]
    exact ⟨path, rfl⟩

/-- THE METHOD: a request to a plain origin is made at one URL, and that has the path of the
    action's own method, without query and fragment, exactly when the segments hold neither `?` nor
    `#`. -/
theorem method_of_request {t : Transfer} {base : Url} (hp : Url.isPlainOrigin t.domain = true)
    (hd : Domain.parse t.domain = .ok base) (action : Action) :
    ∃ built, Url.parse (t.request action).url = .ok built ∧
      (∀ (σ : Type) (settings : RetrySettings)
        (attempt : Url → Http.Request → Act σ Http.Outcome) (authorize : Option (Act σ String)),
        Http.fetch settings attempt authorize (t.request action) =
          Http.fetch settings (fun _ => attempt built) authorize (t.request action)) ∧
      ((built.query = none ∧ built.fragment = none ∧
          (methodSuffix action).toList <:+ built.pathText) ↔
        ∀ s ∈ methodSegments t.agent action, '?' ∉ s ∧ '#' ∉ s) := by
  obtain ⟨tail, hm, ⟨front, hf⟩, hb⟩ := parse_request_of_isPlainOrigin hp hd action
  refine ⟨_, hb, fun σ => Http.fetch_of_parse hb, ?_⟩
  have hq := not_mem_tail_iff hm (by decide : '?' ≠ '/') (by decide)
  have hn := not_mem_tail_iff hm (by decide : '#' ≠ '/') (by decide)
  simp only [Option.map_eq_none_iff]
  constructor
  · rintro ⟨h1, h2, -⟩ s hs
    have h2 := Url.cut_snd_eq_none_iff.mp h2
    rw [Url.cut_of_not_mem h2] at h1
    exact ⟨hq.mp (Url.cut_snd_eq_none_iff.mp h1) s hs, hn.mp h2 s hs⟩
  · intro h
    have h1 := hq.mpr fun s hs => (h s hs).1
    have h2 := hn.mpr fun s hs => (h s hs).2
    rw [Url.cut_of_not_mem h2, Url.cut_of_not_mem h1]
    refine ⟨rfl, rfl, ?_⟩
    have hsuffix : unbroken (methodSuffix action).toList = (methodSuffix action).toList := by
      cases action <;> decide
    rw [← hf, Url.unbroken_append, hsuffix]
    exact methodSuffix_suffix_render action (unbroken front)

/-- An agent whose name holds an at sign, a blank, a colon and a backslash. -/
theorem method_of_request_backslash :
    ∃ (t : Transfer) (base built : Url),
      AgentName.parse "customers/@acme/profiles/ma in:1/virtualAgents/v\\." = .ok t.agent ∧
        Url.isPlainOrigin t.domain = true ∧ Domain.parse t.domain = .ok base ∧
        Url.parse (t.request .pstnTransfer).url = .ok built ∧
        built.query = none ∧ built.fragment = none ∧
        (methodSuffix .pstnTransfer).toList <:+ built.pathText := by
  let t : Transfer :=
    ⟨"HTTPS://API.example.com:8443", ⟨"@acme", "ma in:1", "v\\."⟩, "", "", .empty⟩
  have hp : Url.isPlainOrigin t.domain = true := by decide +kernel
  have hd : (Domain.parse t.domain).map (·.scheme) = .ok "https".toList := by decide +kernel
  obtain ⟨base, hd, -⟩ := Check.map_eq_ok_iff.mp hd
  obtain ⟨built, hb, -, hiff⟩ := method_of_request hp hd .pstnTransfer
  exact ⟨t, base, built, by decide +kernel, hp, hd, hb, hiff.mpr (by decide +kernel)⟩

/-- An agent whose id ends with a question mark: the suffix is the query, and the path is that of
    the agent itself. -/
theorem method_of_request_question_mark :
    ∃ (t : Transfer) (base built : Url),
      AgentName.parse "customers/acme/profiles/main/virtualAgents/va?" = .ok t.agent ∧
        Url.isPlainOrigin t.domain = true ∧ Domain.parse t.domain = .ok base ∧
        Url.parse (t.request .pstnTransfer).url = .ok built ∧
        built.query = some (methodSuffix .pstnTransfer).toList ∧
        built.pathText = "/v1/customers/acme/profiles/main/virtualAgents/va".toList := by
  let t : Transfer := ⟨"http://localhost:8080", ⟨"acme", "main", "va?"⟩, "", "", .empty⟩
  have hd : (Domain.parse t.domain).map (·.scheme) = .ok "http".toList := by decide +kernel
  obtain ⟨base, hd, -⟩ := Check.map_eq_ok_iff.mp hd
  have hb : (Url.parse (t.request .pstnTransfer).url).map (fun url => (url.query, url.pathText)) =
      .ok (some (methodSuffix .pstnTransfer).toList,
        "/v1/customers/acme/profiles/main/virtualAgents/va".toList) := by
    decide +kernel
  obtain ⟨built, hb, he⟩ := Check.map_eq_ok_iff.mp hb
  obtain ⟨hq, hpath⟩ := Prod.mk.inj he
  exact ⟨t, base, built, by decide +kernel, by decide +kernel, hd, hb, hq, hpath⟩

end Transfer

end CallTransfer
