import CallTransfer.Gateway.Plan

/-!
    Agents' names are parsed EXACTLY. The pattern of a name is fixed texts with a segment behind
    each of them, and a name matches it from its first character to its last. As no segment has a
    slash in it, a name matches in one way only: it is the resource name of the agent that it is
    parsed to, and of no other.
-/

namespace CallTransfer.AgentName

variable {name : String} {a b : AgentName}

/-! ### The pattern -/

/-- A part of a pattern: a fixed text, or any nonempty segment of a path. -/
inductive Part where
  | text (s : String)
  | segment

/-- Whether a text matches a pattern as a whole, and which segments are captured. -/
inductive Matches : List Part → List Char → List (List Char) → Prop
  | nil : Matches [] [] []
  | text (h : Matches parts rest captured) : Matches (.text s :: parts) (s.toList ++ rest) captured
  | segment (hn : c ≠ []) (hs : '/' ∉ c) (h : Matches parts rest captured) :
      Matches (.segment :: parts) (c ++ rest) (c :: captured)

/-- The pattern of agents' names. -/
def pattern : List Part := [
  .text "customers/", .segment,
  .text "/profiles/", .segment,
  .text "/virtualAgents/", .segment]

/-- Whether a text is a nonempty segment of a path. -/
def IsSegment (c : List Char) : Prop := c ≠ [] ∧ '/' ∉ c

/-- The path that a name is, of its three segments. -/
def path (customer profile id : List Char) : List Char :=
  "customers/".toList ++ (customer ++ ("/profiles/".toList ++ (profile ++
    ("/virtualAgents/".toList ++ (id ++ [])))))

theorem toList_resourceName (a : AgentName) :
    a.resourceName.toList = path a.customer.toList a.profile.toList a.id.toList := by
  unfold resourceName path
  simp only [String.toList_append, List.append_nil, List.append_assoc]

theorem matches_pattern_iff {s : List Char} {captured : List (List Char)} :
    Matches pattern s captured ↔ ∃ customer profile id, captured = [customer, profile, id] ∧
      s = path customer profile id ∧ IsSegment customer ∧ IsSegment profile ∧ IsSegment id := by
  constructor
  · -- the six parts of the pattern in a row, and nothing behind them
    rintro (_ | ⟨_ | _ | ⟨hc, hc', _ | ⟨_ | _ | ⟨hp, hp', _ | ⟨_ | _ | ⟨hi, hi', ⟨⟩⟩⟩⟩⟩⟩⟩)
    exact ⟨_, _, _, rfl, rfl, ⟨hc, hc'⟩, ⟨hp, hp'⟩, hi, hi'⟩
  · rintro ⟨customer, profile, id, rfl, rfl, hc, hp, hi⟩
    exact .text (.segment hc.1 hc.2 (.text (.segment hp.1 hp.2
      (.text (.segment hi.1 hi.2 .nil)))))

/-- The fields of a path are its segments, each behind what it is called. -/
theorem fields_path {customer profile id : List Char} (hc : '/' ∉ customer) (hp : '/' ∉ profile)
    (hi : '/' ∉ id) : Text.fields '/' (path customer profile id) =
      ["customers".toList, customer, "profiles".toList, profile, "virtualAgents".toList, id] := by
  have hpath : path customer profile id = "customers".toList ++ '/' :: (customer ++ '/' ::
      ("profiles".toList ++ '/' :: (profile ++ '/' :: ("virtualAgents".toList ++ '/' :: id)))) := by
    unfold path
    simp
  have hfixed : '/' ∉ "customers".toList ∧ '/' ∉ "profiles".toList ∧
      '/' ∉ "virtualAgents".toList := by decide
  simp only [hpath, Text.fields_append_cons, Text.fields_of_not_mem hfixed.1,
    Text.fields_of_not_mem hfixed.2.1, Text.fields_of_not_mem hfixed.2.2,
    Text.fields_of_not_mem hc, Text.fields_of_not_mem hp, Text.fields_of_not_mem hi,
    List.cons_append, List.nil_append]

/-- A text is split into the segments that the pattern captures in it. -/
theorem split?_eq_some_iff : split? name = some a ↔
    Matches pattern name.toList [a.customer.toList, a.profile.toList, a.id.toList] := by
  rw [matches_pattern_iff]
  constructor
  · intro h
    unfold split? at h
    split at h
    · rename_i t₁ customer t₂ profile t₃ id hf
      split at h
      · rename_i hfixed
        obtain ⟨rfl, rfl, rfl, hc, hp, hi⟩ := hfixed
        cases h
        have hjoin := Text.intercalate_fields '/' name.toList
        have hplain (f : List Char) (hm : f ∈ Text.fields '/' name.toList) : '/' ∉ f :=
          Text.not_mem_of_mem_fields hm
        rw [hf] at hjoin hplain
        simp only [String.toList_ofList]
        refine ⟨customer, profile, id, rfl, ?_, ⟨hc, hplain _ (by simp)⟩, ⟨hp, hplain _ (by simp)⟩,
          hi, hplain _ (by simp)⟩
        rw [← hjoin]
        unfold path
        simp [List.intercalate]
      · cases h
    · cases h
  · rintro ⟨_, _, _, ⟨⟩, hname, hc, hp, hi⟩
    have hf := fields_path hc.2 hp.2 hi.2
    rw [← hname] at hf
    rw [split?, hf]
    simp [hc.1, hp.1, hi.1]

/-! ### Parsing -/

/-- Whether all segments of an agent's name are fit for a path. -/
structure IsFit (a : AgentName) : Prop where
  customer : segmentFault? a.customer = none
  profile : segmentFault? a.profile = none
  id : segmentFault? a.id = none

theorem isSegment_of_segmentFault? {segment : String} (h : segmentFault? segment = none) :
    IsSegment segment.toList := by
  obtain ⟨hn, -, hs, -⟩ := segmentFault?_eq_none_iff.mp h
  exact ⟨hn, hs⟩

/-- The resource name of an agent is split into the segments that it is made of. -/
theorem IsFit.split?_resourceName (h : a.IsFit) : split? a.resourceName = some a := by
  rw [split?_eq_some_iff, matches_pattern_iff]
  exact ⟨_, _, _, rfl, toList_resourceName a, isSegment_of_segmentFault? h.customer,
    isSegment_of_segmentFault? h.profile, isSegment_of_segmentFault? h.id⟩

theorem eq_resourceName_of_split? (h : split? name = some a) : name = a.resourceName := by
  obtain ⟨_, _, _, ⟨⟩, hname, -⟩ := matches_pattern_iff.mp (split?_eq_some_iff.mp h)
  exact String.toList_inj.mp (hname.trans (toList_resourceName a).symm)

/-- A text names an agent exactly if it is the agent's resource name, with fit segments. -/
theorem parse_eq_ok_iff_resourceName : parse name = .ok a ↔ name = a.resourceName ∧ a.IsFit := by
  rw [parse_eq_ok_iff]
  constructor
  · rintro ⟨h, h1, h2, h3⟩
    exact ⟨eq_resourceName_of_split? h, h1, h2, h3⟩
  · rintro ⟨rfl, h⟩
    exact ⟨h.split?_resourceName, h.customer, h.profile, h.id⟩

theorem checkSegment_ne_shape {called segment text : String} :
    checkSegment called segment ≠ .error (.shape text) := by
  unfold checkSegment
  cases segmentFault? segment with
  | none => nofun
  | some fault => nofun

/-- A text is refused for its shape exactly if the pattern does not match it. -/
theorem parse_eq_shape_iff {text : String} : parse name = .error (.shape text) ↔
    text = name ∧ ∀ captured, ¬ Matches pattern name.toList captured := by
  cases hs : split? name with
  | none =>
    have hno (captured : List (List Char)) : ¬ Matches pattern name.toList captured := by
      intro h
      obtain ⟨c, p, i, rfl, -⟩ := matches_pattern_iff.mp h
      have hsome : split? name = some ⟨String.ofList c, String.ofList p, String.ofList i⟩ := by
        simpa only [split?_eq_some_iff, String.toList_ofList] using h
      cases hs.symm.trans hsome
    simp only [parse, hs, Except.error.injEq, Fault.shape.injEq]
    exact ⟨fun h => ⟨h.symm, hno⟩, fun h => h.1.symm⟩
  | some a =>
    refine ⟨fun h => ?_, fun ⟨_, h⟩ => absurd (split?_eq_some_iff.mp hs) (h _)⟩
    -- behind its shape, a text is refused for a segment only
    simp only [parse, hs, Check.bind_eq_error_iff] at h
    rcases h with h | ⟨-, -, h | ⟨-, -, h | ⟨-, -, h⟩⟩⟩
    · exact absurd h checkSegment_ne_shape
    · exact absurd h checkSegment_ne_shape
    · exact absurd h checkSegment_ne_shape
    · cases h

/-- Names and agents with fit segments are each other's, one to one: a name is parsed to an agent
    exactly if it is its resource name. Every other text is refused as an input, and for its shape
    unless the pattern matches all of it. -/
theorem parse_exact :
    (∀ name a, parse name = .ok a ↔ name = a.resourceName ∧ a.IsFit) ∧
      (∀ name other a, parse name = .ok a → parse other = .ok a → name = other) ∧
      (∀ name a, parse name = .ok a → a.resourceName = name) ∧
      (∀ a, a.IsFit → parse a.resourceName = .ok a) ∧
      ∀ name, (¬ ∃ a : AgentName, name = a.resourceName ∧ a.IsFit) →
        ∃ fault, parse name = .error fault ∧
          Plan.chosenAgent name = .error (.validation fault.message) ∧
          ((∀ captured, ¬ Matches pattern name.toList captured) ↔ fault = .shape name) := by
  refine ⟨fun _ _ => parse_eq_ok_iff_resourceName, fun name other a h ho => ?_, fun name a h => ?_,
    fun a h => parse_eq_ok_iff_resourceName.mpr ⟨rfl, h⟩, fun name hno => ?_⟩
  · rw [(parse_eq_ok_iff_resourceName.mp h).1, (parse_eq_ok_iff_resourceName.mp ho).1]
  · exact (parse_eq_ok_iff_resourceName.mp h).1.symm
  · cases hp : parse name with
    | ok a => exact absurd ⟨a, parse_eq_ok_iff_resourceName.mp hp⟩ hno
    | error fault =>
      refine ⟨fault, rfl, by simp only [Plan.chosenAgent, hp], fun h => ?_, ?_⟩
      · have hshape := parse_eq_shape_iff.mpr ⟨rfl, h⟩
        exact Except.error.inj (hp.symm.trans hshape)
      · rintro rfl
        exact (parse_eq_shape_iff.mp hp).2

end CallTransfer.AgentName
