import CallTransfer.Proofs.Event
import CallTransfer.Transfer.Basic

/-!
    What is TOLD of a contact. The body of a request is read back as the payload it was written
    from. For a transfer, that has all of the contact's own members but for the two that are set
    over them, one of which has the event's parameters but for those that are meant for the gateway.
-/

namespace CallTransfer.Transfer

open Json (Fits HoldsFloat maxDepth)

variable {t : Transfer}

/-! ### Parameters -/

theorem sorted_forwarded {parameters : Members String} (h : parameters.Sorted) :
    (forwarded parameters).Sorted :=
  List.pairwise_map.mpr (List.Pairwise.filter _ h)

/-- A parameter that is passed on is one that is not meant for the gateway. -/
theorem find?_forwarded {parameters : Members String} (h : parameters.Sorted) {key : String}
    {v : Json.Value} : (forwarded parameters).find? key = some v ↔
      key ∉ ownKeys ∧ ∃ text, parameters.find? key = some text ∧ v = .string text := by
  rw [(sorted_forwarded h).find?_eq_some_iff, forwarded, List.mem_map]
  constructor
  · rintro ⟨⟨k, text⟩, hm, he⟩
    obtain ⟨rfl, rfl⟩ := Prod.ext_iff.mp he
    obtain ⟨hm, hk⟩ := List.mem_filter.mp hm
    exact ⟨by simpa using hk, text, h.find?_eq_some_iff.mpr hm, rfl⟩
  · rintro ⟨hk, text, hfind, rfl⟩
    refine ⟨(key, text), List.mem_filter.mpr ⟨h.find?_eq_some_iff.mp hfind, ?_⟩, rfl⟩
    simpa using hk

theorem fits_forwarded {parameters : Members String} (h : parameters.Sorted) (d : Nat) :
    Fits (d + 1) (.object (forwarded parameters)) := by
  refine .object (sorted_forwarded h) fun m hm => ?_
  obtain ⟨p, -, rfl⟩ := List.mem_map.mp hm
  exact .string

theorem not_holdsFloat_forwarded (parameters : Members String) :
    ¬ HoldsFloat (.object (forwarded parameters)) := by
  rintro (_ | _ | ⟨hm, hf⟩)
  obtain ⟨p, -, rfl⟩ := List.mem_map.mp hm
  cases hf

/-! ### Members -/

theorem fits_metadata (h : t.event.Fits) : Fits Event.contactDepth (.object t.metadata) :=
  (h.contact.insert (fits_forwarded h.parameters _) _).insert .string _

theorem not_holdsFloat_metadata (hf : ¬ HoldsFloat (.object t.event.contact)) :
    ¬ HoldsFloat (.object t.metadata) := by
  have hpassed := Json.not_holdsFloat_insert hf (not_holdsFloat_forwarded t.event.parameters)
    "parameters"
  refine Json.not_holdsFloat_insert hpassed ?_ "version"
  rintro ⟨⟩

/-- Whether members are all that is told of the contact in an event, to a backend that is asked for
    a version. -/
structure Tells (event : Event) (version : String) (metadata : Members Json.Value) : Prop where
  sorted : metadata.Sorted
  parameters : ∃ passed : Members Json.Value,
    metadata.find? "parameters" = some (.object passed) ∧ passed.Sorted ∧
      ∀ key v, passed.find? key = some v ↔
        key ∉ ownKeys ∧ ∃ text, event.parameters.find? key = some text ∧ v = .string text
  version : metadata.find? "version" = some (.string version)
  contact : ∀ key, key ≠ "parameters" → key ≠ "version" →
    metadata.find? key = event.contact.find? key

theorem tells_metadata (h : t.event.Fits) : Tells t.event t.version t.metadata where
  sorted := (fits_metadata h).object?.1
  parameters := by
    refine ⟨forwarded t.event.parameters, ?_, sorted_forwarded h.parameters,
      fun _ _ => find?_forwarded h.parameters⟩
    rw [metadata, Members.find?_insert, if_neg (by decide), Members.find?_insert, if_pos rfl]
  version := by rw [metadata, Members.find?_insert, if_pos rfl]
  contact key hp hv := by
    rw [metadata, Members.find?_insert, if_neg hv, Members.find?_insert, if_neg hp]

/-! ### Payloads -/

theorem fits_payload (h : t.event.Fits) (action : Action) : Fits maxDepth (t.payload action) := by
  cases action with
  | pstnTransfer =>
    refine Fits.succ (.object (Members.sorted_iff_keys.mpr ?_) ?_)
    · simp only [List.map_cons, List.map_nil]
      decide
    · refine List.forall_mem_cons.mpr ⟨.string, List.forall_mem_cons.mpr ⟨fits_metadata h, ?_⟩⟩
      exact List.forall_mem_singleton.mpr .string
  | handoff => exact .object (List.pairwise_singleton ..) (List.forall_mem_singleton.mpr .string)

theorem not_holdsFloat_payload (hf : ¬ HoldsFloat (.object t.event.contact)) (action : Action) :
    ¬ HoldsFloat (t.payload action) := by
  cases action with
  | pstnTransfer =>
    rintro (_ | _ | ⟨hm, hm'⟩)
    simp only [List.mem_cons, List.not_mem_nil, or_false] at hm
    rcases hm with rfl | rfl | rfl
    · cases hm'
    · exact not_holdsFloat_metadata hf hm'
    · cases hm'
  | handoff =>
    rintro (_ | _ | ⟨hm, hm'⟩)
    cases List.mem_singleton.mp hm
    cases hm'

/-- The body of a request is read back as the payload, for either action. -/
theorem ofBytes?_body (h : t.event.Fits) (hf : ¬ HoldsFloat (.object t.event.contact))
    (action : Action) : ∃ body, (t.request action).body = some body ∧
      Json.Value.ofBytes? body = some (t.payload action) := by
  refine ⟨_, rfl, ?_⟩
  rw [Json.ofBytes?_encode]
  exact Json.ofString?_render (fits_payload h action) (not_holdsFloat_payload hf action)

/-! ### Requests -/

/-- A backend whose replies are given, and the requests that it has got so far. -/
def recording (reply : Http.Request → Except Halt Bytes) (request : Http.Request) :
    Act (List Http.Request) Bytes :=
  fun sent => (reply request, sent ++ [request])

/-- One request is sent for an action, whatever the reply to it is. -/
theorem sent_of_perform (reply : Http.Request → Except Halt Bytes) (t : Transfer) (action : Action)
    (sent : List Http.Request) :
    (perform (recording reply) t action sent).2 = sent ++ [t.request action] := by
  unfold perform
  cases hr : reply (t.request action) with
  | error halt =>
    have hfetch : recording reply (t.request action) sent =
        (.error halt, sent ++ [t.request action]) := by
      rw [recording, hr]
    rw [Act.run_bind_error hfetch]
  | ok body =>
    have hfetch : recording reply (t.request action) sent =
        (.ok body, sent ++ [t.request action]) := by
      rw [recording, hr]
    rw [Act.run_bind_ok hfetch]
    cases answer (t.url action) action body <;> rfl

/-- One request is sent for a transfer, whose body is read back as the contact's id, all that is
    told of the contact and the event, and the characters that can be dialled, if there are no
    doubles in the contact. -/
theorem transfer_reads_back {text : String} (h : Event.decode? text = some t.event)
    (hf : ¬ HoldsFloat (.object t.event.contact)) (reply : Http.Request → Except Halt Bytes) :
    ∃ request body id metadata,
      (perform (recording reply) t .pstnTransfer []).2 = [request] ∧ request.body = some body ∧
      Json.Value.ofBytes? body = some (.object [
        ("callId", .string id),
        ("ccaasMetadata", .object metadata),
        ("supportedDtmfChars", .string t.dtmfChars)]) ∧
      (t.event.contact.find? "ContactId" = some (.string id) ∨
        id = "" ∧ ∀ other, t.event.contact.find? "ContactId" ≠ some (.string other)) ∧
      Tells t.event t.version metadata := by
  have hfits := Event.fits_of_decode? h
  obtain ⟨body, hbody, hread⟩ := ofBytes?_body hfits hf .pstnTransfer
  exact ⟨_, body, _, _, sent_of_perform reply t .pstnTransfer [], hbody, hread,
    t.event.contactId_cases, tells_metadata hfits⟩

set_option maxRecDepth 20000 in
/-- A contact with members of its own under the two names that are set, and two parameters, of which
    one is empty and one is meant for the gateway. -/
theorem transfer_reads_back_overwritten : ∃ (text : String) (t : Transfer) (body : Bytes)
    (metadata : Members Json.Value), Event.decode? text = some t.event ∧
      ¬ HoldsFloat (.object t.event.contact) ∧
      Json.Value.ofBytes? body = some (.object [
        ("callId", .string ""),
        ("ccaasMetadata", .object metadata),
        ("supportedDtmfChars", .string "*#")]) ∧
      metadata.find? "ContactId" = some (.number (.int 7)) ∧
      metadata.find? "version" = some (.string "v2") := by
  have h : Event.decode? ("\x7b\"Details\":\x7b" ++
      "\"ContactData\":\x7b\"ContactId\":7,\"version\":null,\"parameters\":[]\x7d," ++
      "\"Parameters\":\x7b\"region\":\"eu\",\"language\":\"\"\x7d\x7d\x7d") = some
        ⟨[("ContactId", .number (.int 7)), ("parameters", .array []), ("version", .null)],
          [("language", ""), ("region", "eu")], none⟩ := by
    rfl
  have hf : ¬ HoldsFloat (.object
      [("ContactId", .number (.int 7)), ("parameters", .array []), ("version", .null)]) := by
    decide
  obtain ⟨_, body, id, metadata, -, -, hread, hid, htells⟩ :=
    transfer_reads_back (t := ⟨"https://backend.example", ⟨"c", "p", "a"⟩, "*#", "v2", _⟩) h hf
      fun _ => .ok []
  obtain rfl : id = "" := by
    rcases hid with hid | ⟨hid, -⟩
    · cases hid
    · exact hid
  exact ⟨_, ⟨"https://backend.example", ⟨"c", "p", "a"⟩, "*#", "v2", _⟩, body, metadata, h, hf,
    hread, htells.contact "ContactId" (by decide) (by decide), htells.version⟩

end CallTransfer.Transfer
