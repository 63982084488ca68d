import CallTransfer.Proofs.Json.Writing
import CallTransfer.Transfer.Basic

/-!
    What a response SAYS. The body of a response to a transfer says any object that it holds; of a
    handoff it says four strings, if these are in an object that is in an object. An action is
    answered exactly by what the body says, and fails for its shape if that says nothing.
-/

namespace CallTransfer.Transfer

open Json (Fits Holds HoldsFloat Value kept maxDepth)

/-- Whether a body says an answer to an action; of equal keys the last one counts. -/
inductive Says (body : Bytes) : Action → Answer → Prop
  | transfer {ms : Members Value} (h : Holds body (.object pairs)) (hs : ms.Sorted)
      (hm : ∀ key v, ms.find? key = some v ↔ ∃ w, IsLast pairs key w ∧ w.merged = v) :
      Says body .pstnTransfer ms
  | handoff (h : Holds body (.object pairs)) (hh : IsLast pairs "handoff" (.object within))
      (hc : IsLast within "conversation" (.string conversation))
      (hi : IsLast within "conversationCorrelationId" (.string correlationId))
      (hs : IsLast within "summary" (.string summary))
      (ht : IsLast within "transferTarget" (.string target)) :
      Says body .handoff [
        ("handoff_conversation", .string conversation),
        ("handoff_conversationCorrelationId", .string correlationId),
        ("handoff_summary", .string summary),
        ("handoff_transferTarget", .string target)]

/-! ### Handoffs -/

/-- A text that is kept is the last one of its key. -/
theorem text?_kept_eq_some_iff {pairs : List (String × Value)} {key text : String} :
    Handoff.text? (kept pairs) key = some text ↔ IsLast pairs key (.string text) := by
  simp only [Handoff.text?, Option.bind_eq_some_iff, Value.string?_eq_some_iff,
    Json.find?_kept_eq_some_iff]
  constructor
  · rintro ⟨_, ⟨w, hw, he⟩, rfl⟩
    rwa [Value.merged_eq_string_iff.mp he] at hw
  · exact fun h => ⟨_, ⟨_, h, rfl⟩, rfl⟩

/-- A handoff is an object of four texts, in whatever order and beside whatever else. -/
theorem ofValue?_object_eq_some_iff {ms : Members Value} {handoff : Handoff} :
    Handoff.ofValue? (.object ms) = some handoff ↔
      Handoff.text? ms "conversation" = some handoff.conversation ∧
      Handoff.text? ms "conversationCorrelationId" = some handoff.correlationId ∧
      Handoff.text? ms "summary" = some handoff.summary ∧
      Handoff.text? ms "transferTarget" = some handoff.transferTarget := by
  obtain ⟨c, i, s, t⟩ := handoff
  simp only [Handoff.ofValue?, Option.bind_eq_bind, Option.bind_eq_some_iff, Option.pure_def,
    Option.some.injEq, Handoff.mk.injEq]
  constructor
  · rintro ⟨_, hc, _, hi, _, hs, _, ht, rfl, rfl, rfl, rfl⟩
    exact ⟨hc, hi, hs, ht⟩
  · rintro ⟨hc, hi, hs, ht⟩
    exact ⟨_, hc, _, hi, _, hs, _, ht, rfl, rfl, rfl, rfl⟩

/-! ### Answers -/

variable {url : String} {action : Action} {body : Bytes} {a : Answer}

/-- What is kept of an object that a body holds is the answer to a transfer. -/
theorem says_transfer_iff : Says body .pstnTransfer a ↔
    ∃ pairs, Holds body (.object pairs) ∧ kept pairs = a := by
  constructor
  · rintro ⟨h, hs, hm⟩
    rename_i pairs
    refine ⟨pairs, h, (Json.sorted_kept pairs).ext hs fun key => Option.ext fun v => ?_⟩
    rw [Json.find?_kept_eq_some_iff, hm]
  · rintro ⟨pairs, h, rfl⟩
    exact .transfer h (Json.sorted_kept pairs) fun _ _ => Json.find?_kept_eq_some_iff

theorem says_handoff_iff : Says body .handoff a ↔ ∃ pairs inner handoff,
    Holds body (.object pairs) ∧ IsLast pairs "handoff" (.object inner) ∧
      Handoff.ofValue? (.object (kept inner)) = some handoff ∧ handoff.answer = a := by
  simp only [ofValue?_object_eq_some_iff, text?_kept_eq_some_iff]
  constructor
  · rintro ⟨⟩
    rename_i pairs inner c i s t h hh hc hi hs ht
    exact ⟨pairs, inner, ⟨c, i, s, t⟩, h, hh, ⟨hc, hi, hs, ht⟩, rfl⟩
  · rintro ⟨pairs, inner, ⟨c, i, s, t⟩, h, hh, ⟨hc, hi, hs, ht⟩, rfl⟩
    exact .handoff h hh hc hi hs ht

/-- A transfer is answered by the object that is read from a body. -/
theorem answer_transfer_eq_ok_iff :
    answer url .pstnTransfer body = .ok a ↔ Value.ofBytes? body = some (.object a) := by
  unfold answer
  cases Value.ofBytes? body with
  | none => exact ⟨nofun, nofun⟩
  | some value => cases value <;> simp [Value.object?]

/-- A handoff is answered from an object in an object: behind the check that both are objects, none
    of them is taken apart as an array. -/
theorem answer_handoff_eq_ok_iff : answer url .handoff body = .ok a ↔
    ∃ (ms inner : Members Value) (handoff : Handoff), Value.ofBytes? body = some (.object ms) ∧
      ms.find? "handoff" = some (.object inner) ∧
      Handoff.ofValue? (.object inner) = some handoff ∧ handoff.answer = a := by
  unfold answer
  constructor
  · intro h
    split at h
    · cases h
    · rename_i value hvalue
      simp only at h
      split at h
      · cases h
      · rename_i inner hguard
        obtain ⟨v, hget, hv⟩ := Option.bind_eq_some_iff.mp hguard
        obtain ⟨ms, hms, hfind⟩ := Option.bind_eq_some_iff.mp hget
        rw [Value.object?_eq_some_iff] at hv hms
        -- of the forms that a response may have, the check has left the objects
        subst hv hms
        split at h
        · rename_i handoff hhandoff
          rw [Handoff.ofResponse?, hfind] at hhandoff
          exact ⟨ms, inner, handoff, hvalue, hfind, hhandoff, Except.ok.inj h⟩
        · cases h
  · rintro ⟨ms, inner, handoff, hvalue, hfind, hhandoff, rfl⟩
    simp [hvalue, Value.get?, Value.object?, Handoff.ofResponse?, hfind, hhandoff]

/-- What the check keeps out: a handoff that is an array in an array would be taken apart. -/
example : Handoff.ofResponse? (.array [.array
    [.string "c", .string "i", .string "s", .string "t"]]) = some ⟨"c", "i", "s", "t"⟩ := rfl

/-- An action is answered exactly by what the body says. -/
theorem answer_eq_ok_iff : answer url action body = .ok a ↔ Says body action a := by
  cases action with
  | pstnTransfer =>
    rw [answer_transfer_eq_ok_iff, says_transfer_iff, Json.ofBytes?_eq_some_iff]
    constructor
    · rintro ⟨w, h, he⟩
      obtain ⟨pairs, rfl, hk⟩ := Value.merged_eq_object_iff.mp he.symm
      exact ⟨pairs, h, hk⟩
    · rintro ⟨pairs, h, rfl⟩
      exact ⟨_, h, (Value.merged_object pairs).symm⟩
  | handoff =>
    rw [answer_handoff_eq_ok_iff, says_handoff_iff]
    constructor
    · rintro ⟨ms, inner, handoff, hv, hf, hh, rfl⟩
      obtain ⟨w, h, he⟩ := Json.ofBytes?_eq_some_iff.mp hv
      obtain ⟨pairs, rfl, rfl⟩ := Value.merged_eq_object_iff.mp he.symm
      obtain ⟨u, hu, he⟩ := Json.find?_kept_eq_some_iff.mp hf
      obtain ⟨qs, rfl, rfl⟩ := Value.merged_eq_object_iff.mp he
      exact ⟨pairs, qs, handoff, h, hu, hh, rfl⟩
    · rintro ⟨pairs, inner, handoff, h, hh, hv, rfl⟩
      refine ⟨kept pairs, kept inner, handoff, ?_, ?_, hv, rfl⟩
      · exact Json.ofBytes?_eq_some_iff.mpr ⟨_, h, (Value.merged_object pairs).symm⟩
      · exact Json.find?_kept_eq_some_iff.mpr ⟨_, hh, Value.merged_object inner⟩

/-- An answer is written in a form that is read as the answer, if there are no doubles in it. -/
theorem Says.reads_back (h : Says body action a) (hf : ¬ HoldsFloat (.object a)) :
    Value.ofString? (renderAnswer a) = some (.object a) := by
  refine Json.ofString?_render ?_ hf
  cases action with
  | pstnTransfer =>
    obtain ⟨pairs, hp, rfl⟩ := says_transfer_iff.mp h
    rw [← Value.merged_object]
    exact hp.fits
  | handoff =>
    cases h
    refine .object (Members.sorted_iff_keys.mpr ?_) ?_
    · simp only [List.map_cons, List.map_nil]
      decide
    · simp only [List.forall_mem_cons, List.not_mem_nil, false_imp_iff, implies_true, and_true]
      exact ⟨.string, .string, .string, .string⟩

/-! ### What is no answer -/

theorem object?_of_merged {v : Value} {ms : Members Value} (h : v.merged = .object ms) :
    v.object? ≠ none := by
  obtain ⟨pairs, rfl, -⟩ := Value.merged_eq_object_iff.mp h
  nofun

/-- A body that holds no object says nothing. -/
theorem not_says_of_object? {v : Value} (h : Holds body v) (hv : v.object? = none) :
    ¬ Says body action a := by
  have hno {pairs : List (String × Value)} : ¬ Holds body (.object pairs) := fun hp =>
    object?_of_merged ((h.merged_eq hp).trans (Value.merged_object pairs)) hv
  rintro (⟨hp, -, -⟩ | ⟨hp, -, -, -, -, -⟩)
  · exact hno hp
  · exact hno hp

/-- An object says nothing of a handoff if the last member of that name is no object. -/
theorem not_says_of_handoff {pairs : List (String × Value)} {v : Value}
    (h : Holds body (.object pairs)) (hh : IsLast pairs "handoff" v) (hv : v.object? = none) :
    ¬ Says body .handoff a := by
  intro hsays
  obtain ⟨others, inner, -, ho, hi, -, -⟩ := says_handoff_iff.mp hsays
  have hkept : kept pairs = kept others := by
    have he := h.merged_eq ho
    rwa [Value.merged_object, Value.merged_object, Value.object.injEq] at he
  have hfind := Json.find?_kept_eq_some_iff.mpr ⟨_, hh, rfl⟩
  rw [hkept, Json.find?_kept_eq_some_iff.mpr ⟨_, hi, rfl⟩, Value.merged_object] at hfind
  exact object?_of_merged (Option.some.inj hfind).symm hv

/-! ### Actions -/

variable {fetch : Http.Request → Act σ Bytes} {t : Transfer} {s after : σ}

/-- An action for which a body is got is answered by that. -/
theorem run_perform (h : fetch (t.request action) s = (.ok body, after)) :
    perform fetch t action s =
      Act.ofExcept (fun fault => .responseShape fault.message) (answer (t.url action) action body)
        after :=
  Act.run_bind_ok h _

/-- An action is answered exactly by what the body says that is got for it, and that answer is read
    back from its written form if there are no doubles in it. A body that says nothing, such as an
    array or one with an array for a handoff, has the wrong shape. -/
theorem answered_iff_says (h : fetch (t.request action) s = (.ok body, after)) :
    (∀ a, perform fetch t action s = (.ok a, after) ↔ Says body action a) ∧
      ((∀ a, ¬ Says body action a) →
        ∃ text, perform fetch t action s = (.error (.failed (.responseShape text)), after)) ∧
      (∀ a, Says body action a → ¬ HoldsFloat (.object a) →
        Value.ofString? (renderAnswer a) = some (.object a)) ∧
      (∀ items, Holds body (.array items) → ∀ a, ¬ Says body action a) ∧
      ∀ pairs items, Holds body (.object pairs) → IsLast pairs "handoff" (.array items) →
        ∀ a, ¬ Says body .handoff a := by
  refine ⟨fun a => ?_, fun hnone => ?_, fun a hsays => hsays.reads_back,
    fun items hitems a => not_says_of_object? hitems rfl,
    fun pairs items hpairs hlast a => not_says_of_handoff hpairs hlast rfl⟩
  · rw [run_perform h, ← answer_eq_ok_iff]
    cases answer (t.url action) action body with
    | ok found =>
      rw [Act.run_ofExcept_ok]
      constructor <;> (rintro ⟨⟩; rfl)
    | error fault =>
      rw [Act.run_ofExcept_error]
      exact ⟨nofun, nofun⟩
  · rw [run_perform h]
    cases ha : answer (t.url action) action body with
    | ok found => exact absurd (answer_eq_ok_iff.mp ha) (hnone found)
    | error fault => exact ⟨_, Act.run_ofExcept_error _ fault after⟩

set_option maxRecDepth 20000 in
/-- A handoff behind one of the same name that is an array, with a summary that stands there
    twice. -/
theorem answered_iff_says_twice : ∃ (fetch : Http.Request → Act Unit Bytes) (body : Bytes),
    (∀ request, fetch request () = (.ok body, ())) ∧ Says body .handoff [
      ("handoff_conversation", .string "c"),
      ("handoff_conversationCorrelationId", .string "i"),
      ("handoff_summary", .string "s"),
      ("handoff_transferTarget", .string "t")] := by
  have hread : Value.ofString? ("\x7b\"handoff\":[],\"id\":7,\"handoff\":\x7b" ++
      "\"transferTarget\":\"t\",\"summary\":\"r\",\"conversation\":\"c\"," ++
      "\"conversationCorrelationId\":\"i\",\"summary\":\"s\"\x7d\x7d") =
        some (.object [("handoff", .object [
            ("conversation", .string "c"), ("conversationCorrelationId", .string "i"),
            ("summary", .string "s"), ("transferTarget", .string "t")]),
          ("id", .number (.int 7))]) := by
    rfl
  rw [← Json.ofBytes?_encode] at hread
  generalize Text.Utf8.encode _ = body at hread
  have hanswer (url : String) :
      answer url .handoff body = .ok (Handoff.answer ⟨"c", "i", "s", "t"⟩) :=
    answer_handoff_eq_ok_iff.mpr ⟨_, _, _, hread, rfl, rfl, rfl⟩
  obtain ⟨fetch, hfetch⟩ : ∃ fetch : Http.Request → Act Unit Bytes,
      ∀ request, fetch request () = (.ok body, ()) :=
    ⟨fun _ s => (.ok body, s), fun _ => rfl⟩
  obtain ⟨hiff, -⟩ := answered_iff_says
    (t := ⟨"https://backend.example", ⟨"c", "p", "a"⟩, "", "", .empty⟩) (hfetch _)
  refine ⟨fetch, body, hfetch, (hiff _).mp ?_⟩
  rw [run_perform (hfetch _), hanswer]
  rfl

end CallTransfer.Transfer
