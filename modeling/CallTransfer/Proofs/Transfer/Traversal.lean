import CallTransfer.Proofs.Transfer.Endpoint
import CallTransfer.Proofs.Url.Path

/-!
    Dot segments in a request's path. What is fit for a path holds no double dot, neither as it is
    written nor in percent-encoding as a whole. But a URL is read with tabs and line ends left out,
    and there are single dots and other spellings: those are OVERLOOKED, and each of them takes a
    part of the path away. Everything else that is fit for a path stays in it.
-/

namespace CallTransfer

open Url (isLineBlank isSlash unbroken segmentsOf cut)
open Url.Path (isDot)

/-- A segment as it counts for dots: without tabs and line ends, in small letters. -/
def spelling (segment : String) : List Char := (unbroken segment.toList).map Char.toLower

/-- A dot segment that passes for fit: any spelling but the two plain ones of a double dot, and
    those when a tab or a line end takes them apart. -/
def isOverlooked (segment : String) : Bool :=
  [".".toList, "%2e".toList, ".%2e".toList, "%2e.".toList].contains (spelling segment) ||
    (segment.toList.any isLineBlank &&
      ["..".toList, "%2e%2e".toList].contains (spelling segment))

/-- Of all that is fit for a path, the overlooked segments are the dot segments. -/
theorem isDot_iff_isOverlooked {segment : String} (h : segmentFault? segment = none) :
    isDot (unbroken segment.toList) = true ↔ isOverlooked segment = true := by
  obtain ⟨-, hd, -, he, -⟩ := segmentFault?_eq_none_iff.mp h
  -- without tabs and line ends, the two plain spellings are those that are looked for
  have hplain : segment.toList.any isLineBlank = false → spelling segment ∉
      ["..".toList, "%2e%2e".toList] := by
    intro hn hm
    have hu : unbroken segment.toList = segment.toList :=
      Url.unbroken_of_forall fun c hc => by simpa using List.any_eq_false.mp hn c hc
    rw [spelling, hu] at hm
    have hlow : Text.lower segment.toList = segment.toList.map Char.toLower := by
      refine List.map_congr_left fun c hc => Text.lowerChar_of_toLower ?_
      have hall : ∀ d ∈ ["..".toList, "%2e%2e".toList].flatten, d.toNat < 0x80 :=
        Text.forall_of_all (by decide)
      exact hall _ (List.mem_flatten.mpr ⟨_, hm, List.mem_map_of_mem hc⟩)
    rcases List.mem_cons.mp hm with hm | hm
    · have hsame : segment.toList.map Char.toLower = segment.toList := by
        refine (List.map_congr_left fun c hc => ?_).trans (List.map_id _)
        have hall : ∀ d ∈ "..".toList, ¬ ('a' ≤ d ∧ d ≤ 'z') := Text.forall_of_all (by decide)
        exact (Text.toLower_cases c).resolve_right (hall _ (hm ▸ List.mem_map_of_mem hc))
      rw [← hsame, hm] at hd
      revert hd
      decide
    · rw [hlow, List.mem_singleton.mp hm] at he
      revert he
      decide
  have hsplit : ∀ s, s ∈ Url.Path.dotSpellings ↔
      s ∈ [".".toList, "%2e".toList, ".%2e".toList, "%2e.".toList] ∨
        s ∈ ["..".toList, "%2e%2e".toList] := by
    intro s
    simp only [Url.Path.dotSpellings, List.mem_cons, List.not_mem_nil, or_false]
    grind
  rw [Url.Path.isDot_iff, hsplit, isOverlooked, Bool.or_eq_true, Bool.and_eq_true,
    List.contains_iff_mem, List.contains_iff_mem]
  refine or_congr_right ⟨fun hm => ⟨?_, hm⟩, fun hm => hm.2⟩
  exact Bool.not_eq_false _ |>.mp fun hn => hplain hn hm

namespace Transfer

/-- The path of a method as it was put down: all of its segments, each in percent-encoding and
    without tabs and line ends. -/
def intendedPath (a : AgentName) (action : Action) : Url.Path :=
  .segments ((methodSegments a action).map fun s =>
    Url.Percent.encode Url.Percent.path (unbroken s))

variable {a : AgentName} {action : Action}

/-- What holds of letters, digits and colons and of all characters of the agent's name holds of all
    that is put down behind the endpoint. -/
theorem forall_mem_methodSegments {p : Char → Prop} (hc : ∀ c ∈ a.customer.toList, p c)
    (hp : ∀ c ∈ a.profile.toList, p c) (hi : ∀ c ∈ a.id.toList, p c)
    (hf : ∀ c : Char, (c.isAlphanum || c == ':') = true → p c) :
    ∀ s ∈ methodSegments a action, ∀ c ∈ s, p c := by
  have hfixed : ∀ s : List Char, s.all (fun c => c.isAlphanum || c == ':') = true → ∀ c ∈ s, p c :=
    fun s hs c hm => hf c (List.all_eq_true.mp hs c hm)
  cases action with
  | pstnTransfer =>
    have hlast : ∀ c ∈ a.id.toList ++ ":generatePSTNTransferData".toList, p c := by
      intro c hm
      rcases List.mem_append.mp hm with hm | hm
      · exact hi c hm
      · exact hfixed _ (by decide) c hm
    simp only [methodSegments, List.forall_mem_cons]
    exact ⟨hfixed _ (by decide), hfixed _ (by decide), hc, hfixed _ (by decide), hp,
      hfixed _ (by decide), hlast, List.forall_mem_nil _⟩
  | handoff =>
    simp only [methodSegments, List.forall_mem_cons]
    exact ⟨hfixed _ (by decide), hfixed _ (by decide), hc, hfixed _ (by decide), hp,
      hfixed _ (by decide), List.forall_mem_nil _⟩

/-- Customer and profile are the only segments of a method that may be dot segments, and neither of
    them is the last one. -/
theorem exists_methodSegments_eq_concat (a : AgentName) (action : Action) :
    ∃ front last, methodSegments a action = front ++ [last] ∧ isDot (unbroken last) = false ∧
      ((∀ s ∈ front, isDot (unbroken s) = false) ↔
        isDot (unbroken a.customer.toList) = false ∧
          isDot (unbroken a.profile.toList) = false) := by
  have hv : isDot (unbroken "v1".toList) = false := by decide
  have hc : isDot (unbroken "customers".toList) = false := by decide
  have hp : isDot (unbroken "profiles".toList) = false := by decide
  cases action with
  | pstnTransfer =>
    have ha : isDot (unbroken "virtualAgents".toList) = false := by decide
    refine ⟨["v1".toList, "customers".toList, a.customer.toList, "profiles".toList,
      a.profile.toList, "virtualAgents".toList], _, rfl, ?_, ?_⟩
    · have hm : ':' ∈ unbroken (a.id.toList ++ ":generatePSTNTransferData".toList) :=
        (Url.mem_unbroken_iff (by decide)).mpr (List.mem_append_right _ (by decide))
      exact Url.Path.isDot_of_mem hm (by decide)
    · simp only [List.forall_mem_cons, List.not_mem_nil, hv, hc, hp, ha, false_implies,
        implies_true, and_true, true_and]
  | handoff =>
    refine ⟨["v1".toList, "customers".toList, a.customer.toList, "profiles".toList,
      a.profile.toList], _, rfl, by decide, ?_⟩
    simp only [List.forall_mem_cons, List.not_mem_nil, hv, hc, hp, false_implies, implies_true,
      and_true, true_and]

/-- Segments without slashes that are put down behind an endpoint are read one by one. -/
theorem segmentsOf_unbroken {ss : List (List Char)} {tail : List Char}
    (h : ss.flatMap ('/' :: ·) = '/' :: tail) (hs : ∀ s ∈ ss, ∀ c ∈ s, isSlash true c = false) :
    segmentsOf true (unbroken tail) = ss.map unbroken := by
  cases ss with
  | nil => cases h
  | cons first ss =>
    rw [List.flatMap_cons, List.cons_append] at h
    rw [← (List.cons.inj h).2, Url.unbroken_append, Url.unbroken_flatMap, List.map_cons]
    refine Url.segmentsOf_flatMap fun s hm c hc => ?_
    rw [← List.map_cons] at hm
    obtain ⟨t, ht, rfl⟩ := List.mem_map.mp hm
    exact hs t ht c (Url.mem_of_mem_unbroken hc)

/-- What the agent's name holds in one of its segments, it holds. -/
theorem mem_resourceName {c : Char}
    (h : c ∈ a.customer.toList ∨ c ∈ a.profile.toList ∨ c ∈ a.id.toList) :
    c ∈ a.resourceName.toList := by
  simp only [AgentName.resourceName, String.toList_append, List.mem_append]
  grind

/-- No slash and no sign is in the segments of a method, if the agent's name has passed and holds no
    backslash and no sign. -/
theorem not_mem_methodSegments (action : Action) {name : String}
    (ha : AgentName.parse name = .ok a)
    (hn : ∀ sign ∈ "?#\\".toList, sign ∉ a.resourceName.toList) :
    ∀ s ∈ methodSegments a action, ∀ c ∈ s, c ∉ "/?#\\".toList := by
  obtain ⟨-, h1, h2, h3⟩ := AgentName.parse_eq_ok_iff.mp ha
  have hpass : ∀ segment, segmentFault? segment = none →
      (∀ c ∈ segment.toList, c ∈ a.resourceName.toList) →
        ∀ c ∈ segment.toList, c ∉ "/?#\\".toList := by
    intro segment hs hr c hc hm
    rcases List.mem_cons.mp (show c ∈ '/' :: "?#\\".toList from hm) with rfl | hm
    · exact (segmentFault?_eq_none_iff.mp hs).2.2.1 hc
    · exact hn c hm (hr c hc)
  refine forall_mem_methodSegments (hpass _ h1 fun c hc => mem_resourceName (.inl hc))
    (hpass _ h2 fun c hc => mem_resourceName (.inr (.inl hc)))
    (hpass _ h3 fun c hc => mem_resourceName (.inr (.inr hc))) fun c hc hm => ?_
  have hall : ∀ d ∈ "/?#\\".toList, (d.isAlphanum || d == ':') = false :=
    Text.forall_of_all (by decide)
  rw [hall c hm] at hc
  cases hc

/-- NO OTHER TRAVERSAL: of all that is fit for a path, the overlooked segments are the dot segments.
    So a request to a plain origin, for an agent whose name has passed and holds no other separator,
    is made at the path that was put down, in full, exactly when neither the customer nor the
    profile is overlooked. -/
theorem path_of_request {name : String} {t : Transfer} {base : Url}
    (ha : AgentName.parse name = .ok t.agent) (hp : Url.isPlainOrigin t.domain = true)
    (hd : Domain.parse t.domain = .ok base)
    (hn : ∀ sign ∈ "?#\\".toList, sign ∉ t.agent.resourceName.toList) (action : Action) :
    (∀ segment, segmentFault? segment = none →
      (isDot (unbroken segment.toList) = true ↔ isOverlooked segment = true)) ∧
    ∃ built, Url.parse (t.request action).url = .ok built ∧
      (built.path = intendedPath t.agent action ↔
        isOverlooked t.agent.customer = false ∧ isOverlooked t.agent.profile = false) := by
  refine ⟨fun segment => isDot_iff_isOverlooked, ?_⟩
  obtain ⟨tail, hm, -, hb⟩ := parse_request_of_isPlainOrigin hp hd action
  have hsegments := not_mem_methodSegments action ha hn
  have hq : '?' ∉ unbroken tail := (not_mem_tail_iff hm (by decide) (by decide)).mpr
    fun s hs hc => hsegments s hs '?' hc (by decide)
  have hf : '#' ∉ unbroken tail := (not_mem_tail_iff hm (by decide) (by decide)).mpr
    fun s hs hc => hsegments s hs '#' hc (by decide)
  have hslash : ∀ s ∈ methodSegments t.agent action, ∀ c ∈ s, isSlash true c = false := by
    intro s hs c hc
    have hne : c ≠ '/' ∧ c ≠ '\\' := by
      constructor <;> (rintro rfl; exact hsegments s hs _ hc (by decide))
    simp [isSlash, hne]
  obtain ⟨front, last, hcat, hl, hdots⟩ := exists_methodSegments_eq_concat t.agent action
  obtain ⟨-, h1, h2, -⟩ := AgentName.parse_eq_ok_iff.mp ha
  refine ⟨_, hb, ?_⟩
  rw [← Bool.not_eq_true, ← isDot_iff_isOverlooked h1, ← Bool.not_eq_true,
    ← isDot_iff_isOverlooked h2, Bool.not_eq_true, Bool.not_eq_true, ← hdots, intendedPath]
  simp only [Url.cut_of_not_mem hf, Url.cut_of_not_mem hq, segmentsOf_unbroken hm hslash, hcat,
    List.map_append, List.map_singleton]
  have hkept := Url.Path.ofSegments_concat_eq_iff hl (front.map unbroken)
  simp only [List.forall_mem_map] at hkept
  rw [← hkept, List.map_append, List.map_map]
  rfl

/-- An agent with dots in all of its segments, none of which is a dot segment. -/
theorem path_of_request_dotted :
    ∃ (t : Transfer) (base built : Url),
      AgentName.parse "customers/.acme./profiles/%2e_%2e/virtualAgents/.%2e" = .ok t.agent ∧
        Url.isPlainOrigin t.domain = true ∧ Domain.parse t.domain = .ok base ∧
        Url.parse (t.request .pstnTransfer).url = .ok built ∧
        built.path = intendedPath t.agent .pstnTransfer := by
  let t : Transfer := ⟨"https://api.example.com", ⟨".acme.", "%2e_%2e", ".%2e"⟩, "", "", .empty⟩
  have ha : AgentName.parse "customers/.acme./profiles/%2e_%2e/virtualAgents/.%2e" =
      .ok t.agent := by
    decide +kernel
  have hp : Url.isPlainOrigin t.domain = true := by decide +kernel
  have hd : (Domain.parse t.domain).map (·.scheme) = .ok "https".toList := by decide +kernel
  obtain ⟨base, hd, -⟩ := Check.map_eq_ok_iff.mp hd
  have hn : ∀ sign ∈ "?#\\".toList, sign ∉ t.agent.resourceName.toList :=
    Text.forall_of_all (by decide +kernel)
  obtain ⟨-, built, hb, hpath⟩ := path_of_request ha hp hd hn .pstnTransfer
  exact ⟨t, base, built, ha, hp, hd, hb, hpath.mpr (by decide +kernel)⟩

/-- A double dot of which one is in percent-encoding is fit for a path, and takes the segment before
    it away. -/
theorem path_of_request_half_encoded :
    segmentFault? ".%2e" = none ∧ isDot (unbroken ".%2e".toList) = true ∧
      ∃ (t : Transfer) (base built : Url),
        AgentName.parse "customers/acme/profiles/.%2e/virtualAgents/va" = .ok t.agent ∧
          Url.isPlainOrigin t.domain = true ∧ Domain.parse t.domain = .ok base ∧
          Url.parse (t.request .pstnTransfer).url = .ok built ∧
          built.pathText =
            "/v1/customers/acme/virtualAgents/va:generatePSTNTransferData".toList := by
  let t : Transfer := ⟨"http://localhost:8080", ⟨"acme", ".%2e", "va"⟩, "", "", .empty⟩
  have hd : (Domain.parse t.domain).map (·.scheme) = .ok "http".toList := by decide +kernel
  obtain ⟨base, hd, -⟩ := Check.map_eq_ok_iff.mp hd
  have hb : (Url.parse (t.request .pstnTransfer).url).map Url.pathText =
      .ok "/v1/customers/acme/virtualAgents/va:generatePSTNTransferData".toList := by
    decide +kernel
  obtain ⟨built, hb, hpath⟩ := Check.map_eq_ok_iff.mp hb
  exact ⟨by decide +kernel, by decide +kernel, t, base, built, by decide +kernel,
    by decide +kernel, hd, hb, hpath⟩

end Transfer

end CallTransfer
