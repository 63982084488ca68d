import CallTransfer.Proofs.Gateway.Regions
import CallTransfer.Proofs.Transfer.Endpoint
import CallTransfer.Proofs.Url.Written

/-!
    Endpoints that NAME a region. Where no region is given, it is read off the first place in the
    API endpoint that looks like the host of a region; but nothing makes that place the end of the
    host. So the requests go to a host of that region if nothing of the host stands behind it, and
    to anybody's host if something does, or if it is the user that has such a name.
-/

namespace CallTransfer

open Text (lower lowerChar)

/-! ### Ends of a text -/

namespace Text

variable [BEq α] [LawfulBEq α] {d e t : List α}

/-- Whether a text can end within another one and go on behind it. -/
def overlaps (d e : List α) : Bool :=
  (List.range d.length).any fun k => (d.drop k).isPrefixOf e && (d.drop k).length < e.length

/-- A text that ends behind another one, with which it does not overlap, is all behind it. -/
theorem isSuffix_of_not_overlaps (front : List α) (h : e <:+ front ++ d ++ t)
    (hn : overlaps d e = false) (hl : e.length ≤ d.length + t.length) : t = [] ∨ e <:+ t := by
  by_cases ht : t = []
  · exact Or.inl ht
  · rcases List.suffix_or_suffix_of_suffix h (List.suffix_append _ t) with he | ⟨y, rfl⟩
    · exact Or.inr he
    · rw [List.length_append] at hl
      have hy : y <:+ d := List.suffix_of_suffix_length_le (List.suffix_append_self_iff.mp h)
        (List.suffix_append front d) (by omega)
      obtain ⟨before, rfl⟩ := hy
      cases y with
      | nil => exact Or.inr (List.suffix_refl t)
      | cons c y =>
        -- what of the text is within the other one is an overlap
        have hover : overlaps (before ++ c :: y) (c :: y ++ t) = true := by
          refine List.any_eq_true.mpr ⟨before.length, List.mem_range.mpr (by simp), ?_⟩
          have hlen : t.length ≠ 0 := mt List.length_eq_zero_iff.mp ht
          rw [List.drop_left, Bool.and_eq_true, List.isPrefixOf_iff_prefix, decide_eq_true_eq]
          exact ⟨List.prefix_append _ _, by rw [List.length_append]; omega⟩
        rw [hn] at hover
        cases hover

/-- A text that ends behind a separator either starts behind it, too, or reaches back over it. -/
theorem isSuffix_append_cons {α : Type} {front s e : List α} {sep : α}
    (h : e <:+ front ++ sep :: s) : e <:+ s ∨ ∃ y, e = y ++ sep :: s ∧ y <:+ front := by
  rcases List.suffix_or_suffix_of_suffix h (List.suffix_append front (sep :: s)) with
    hb | ⟨y, rfl⟩
  · rcases List.suffix_cons_iff.mp hb with rfl | hs
    · exact Or.inr ⟨[], rfl, List.nil_suffix⟩
    · exact Or.inl hs
  · exact Or.inr ⟨y, rfl, List.suffix_append_self_iff.mp h⟩

end Text

/-! ### What names a region -/

namespace Region

variable {region text s front behind : List Char}

/-- Whether a text is the part of an API host that names a region. -/
def Names (text region : List Char) : Prop :=
  isName region = true ∧ ∃ sep ∈ ['-', '.'], ∃ tld ∈ ["ai".toList, "com".toList],
    text = "api".toList ++ sep :: region ++ (".cresta.".toList ++ tld)

/-- Whether a host is an API host of a region: it ends in what names the region. -/
def IsHostOf (region host : List Char) : Prop := ∃ text, Names text region ∧ text <:+ host

/-- Whether a host is one below `cresta.ai` or `cresta.com`. -/
def IsInside (host : List Char) : Prop :=
  ∃ tld ∈ ["ai".toList, "com".toList], ".cresta.".toList ++ tld <:+ host

theorem IsHostOf.isInside {host : List Char} (h : IsHostOf region host) : IsInside host := by
  obtain ⟨text, ⟨-, sep, -, tld, ht, rfl⟩, hs⟩ := h
  exact ⟨tld, ht, (List.suffix_append _ _).trans hs⟩

theorem exists_of_closesName (h : closesName s = true) :
    ∃ tld ∈ ["ai".toList, "com".toList], ".cresta.".toList ++ tld <+: s := by
  rcases Bool.or_eq_true_iff.mp h with h | h
  · exact ⟨"ai".toList, by decide, List.isPrefixOf_iff_prefix.mp h⟩
  · exact ⟨"com".toList, by decide, List.isPrefixOf_iff_prefix.mp h⟩

/-- A region at the front of a text is a name that goes on as an endpoint does. -/
theorem of_leading? (h : leading? s = some region) : isName region = true ∧
    ∃ tld ∈ ["ai".toList, "com".toList], region ++ (".cresta.".toList ++ tld) <+: s := by
  unfold leading? at h
  simp only at h
  split at h
  · rename_i hc
    obtain ⟨hn, hclose⟩ := Bool.and_eq_true_iff.mp hc
    cases h
    obtain ⟨tld, ht, hp⟩ := exists_of_closesName hclose
    refine ⟨Bool.and_eq_true_iff.mpr ⟨hn, List.all_takeWhile⟩, tld, ht, ?_⟩
    have hs := (List.prefix_append_right_inj (s.takeWhile isNameChar)).mpr hp
    rwa [List.takeWhile_append_dropWhile] at hs
  · cases h

/-- A region is found in a text only where something in the text names it. -/
theorem exists_names_of_search (h : search s = some region) :
    ∃ text, Names text region ∧ text <:+: s := by
  induction s with
  | nil => cases h
  | cons c s ih =>
    have hfront (sep : Char) {rest : List Char} (hsep : sep ∈ ['-', '.'])
        (ha : c :: s = "api".toList ++ sep :: rest) (hl : leading? rest = some region) :
        ∃ text, Names text region ∧ text <:+: c :: s := by
      obtain ⟨hn, tld, ht, hp⟩ := of_leading? hl
      refine ⟨_, ⟨hn, sep, hsep, tld, ht, rfl⟩, List.IsPrefix.isInfix ?_⟩
      rw [ha, List.append_assoc, List.cons_append, List.prefix_append_right_inj,
        List.cons_prefix_cons]
      exact ⟨rfl, hp⟩
    unfold search at h
    simp only at h
    split at h
    · rename_i name hb
      cases h
      obtain ⟨rest, hr, hl⟩ := Option.bind_eq_some_iff.mp hb
      have hdash : "api-".toList = "api".toList ++ ['-'] := by decide
      have hdot : "api.".toList = "api".toList ++ ['.'] := by decide
      cases ha : Text.after? "api-".toList (c :: s) with
      | some behind =>
        rw [ha] at hr
        cases hr
        refine hfront '-' (by decide) ?_ hl
        rw [Text.after?_eq_some_iff.mp ha, hdash, List.append_assoc, List.singleton_append]
      | none =>
        rw [ha] at hr
        refine hfront '.' (by decide) ?_ hl
        rw [Text.after?_eq_some_iff.mp hr, hdot, List.append_assoc, List.singleton_append]
    · obtain ⟨text, hn, hi⟩ := ih h
      exact ⟨text, hn, List.infix_cons hi⟩

/-- What names a region is made of the characters of names, and of dots. -/
theorem Names.forall (h : Names text region) : ∀ c ∈ text, isNameChar c = true ∨ c = '.' := by
  obtain ⟨hn, sep, hs, tld, ht, rfl⟩ := h
  have hname := List.all_eq_true.mp (Bool.and_eq_true_iff.mp hn).2
  have hfix : ∀ s ∈ ["api".toList, ".cresta.".toList, "ai".toList, "com".toList], ∀ c ∈ s,
      isNameChar c = true ∨ c = '.' := fun s hs => Text.forall_of_all (by revert s; decide)
  have hsep : ∀ sep ∈ ['-', '.'], isNameChar sep = true ∨ sep = '.' :=
    Text.forall_of_all (by decide)
  simp only [List.forall_mem_append, List.forall_mem_cons]
  exact ⟨⟨hfix _ (by decide), hsep sep hs, fun c hc => Or.inl (hname c hc)⟩, hfix _ (by decide),
    hfix tld (List.mem_cons_of_mem _ (List.mem_cons_of_mem _ ht))⟩

theorem Names.mem (h : Names text region) : 'a' ∈ text ∧ 'p' ∈ text := by
  obtain ⟨-, sep, -, tld, -, rfl⟩ := h
  exact ⟨by simp, by simp⟩

/-- What names a region is in small letters. -/
theorem Names.lower_eq (h : Names text region) : lower text = text := by
  refine Idna.IsLowAscii.lower_eq fun c hc => ?_
  rcases h.forall c hc with hn | rfl
  · exact ⟨le_of_isNameChar hn, isUpper_of_isNameChar hn⟩
  · decide

/-! ### What stands behind a name -/

/-- No end of an endpoint overlaps with another one, or with the front of what names a region. -/
theorem overlaps_tld : ∀ tld ∈ ["ai".toList, "com".toList], ∀ other ∈ ["ai".toList, "com".toList],
    Text.overlaps (".cresta.".toList ++ tld) (".cresta.".toList ++ other) = false := by
  decide

theorem overlaps_api {tld : List Char} (ht : tld ∈ ["ai".toList, "com".toList]) (s : List Char) :
    Text.overlaps tld ("api".toList ++ s) = false := by
  rcases List.mem_cons.mp ht with rfl | ht
  · rfl
  · rw [List.mem_singleton.mp ht]
    rfl

/-- A host in which something names a region and something else stands behind that is below one of
    the two domains only if what stands behind is. -/
theorem end_of_names (hn : Names text region) {tld : List Char}
    (ht : tld ∈ ["ai".toList, "com".toList])
    (h : ".cresta.".toList ++ tld <:+ front ++ text ++ behind) :
    behind = [] ∨ ".cresta.".toList ++ tld <:+ behind := by
  obtain ⟨-, sep, -, other, ho, rfl⟩ := hn
  by_cases hb : behind = []
  · exact Or.inl hb
  · rw [← List.append_assoc] at h
    refine Text.isSuffix_of_not_overlaps _ h (overlaps_tld other ho tld ht) ?_
    have hlength : ∀ tld ∈ ["ai".toList, "com".toList], 2 ≤ tld.length ∧ tld.length ≤ 3 := by decide
    have := hlength tld ht
    have := hlength other ho
    have := List.length_pos_iff.mpr hb
    simp only [List.length_append]
    omega

theorem isInside_iff (hn : Names text region) :
    IsInside (front ++ text ++ behind) ↔ behind = [] ∨ IsInside behind := by
  constructor
  · rintro ⟨tld, ht, h⟩
    exact (end_of_names hn ht h).imp_right fun hs => ⟨tld, ht, hs⟩
  · rintro (rfl | ⟨tld, ht, h⟩)
    · have hhost : IsHostOf region (front ++ text ++ []) :=
        ⟨text, hn, by rw [List.append_nil]; exact List.suffix_append _ _⟩
      exact hhost.isInside
    · exact ⟨tld, ht, h.trans (List.suffix_append _ _)⟩

/-- A region called by its service at the end of a text does not reach back over a dot, before which
    something else stands. -/
theorem isSuffix_of_dot {sep : Char} (hr : '.' ∉ region)
    (h : "api".toList ++ sep :: region <:+ front ++ "cresta".toList ++ '.' :: s) :
    "api".toList ++ sep :: region <:+ s := by
  rcases Text.isSuffix_append_cons h with hs | ⟨y, hy, hfront⟩
  · exact hs
  · -- only the service itself could stand before the dot
    have hsplit : "api".toList ++ [sep] ++ region = y ++ '.' :: s := by
      rw [List.append_assoc, List.singleton_append, hy]
    obtain ⟨stem, hapi, -⟩ := Url.exists_of_append_eq_append_cons hr hsplit
    rcases List.eq_nil_or_concat stem with rfl | ⟨stem, last, rfl⟩
    · obtain rfl : "api".toList = y := List.append_inj_left' hapi rfl
      have hends : "api".toList <:+ "cresta".toList :=
        List.suffix_of_suffix_length_le hfront (List.suffix_append _ _) (by decide)
      exact absurd hends (by decide)
    · rw [List.concat_eq_append, ← List.cons_append, ← List.append_assoc] at hapi
      have hin : "api".toList = y ++ '.' :: stem := List.append_inj_left' hapi rfl
      have hm : '.' ∈ "api".toList := hin ▸ List.mem_append_right y List.mem_cons_self
      exact absurd hm (by decide)

theorem isHostOf_iff (hn : Names text region) :
    IsHostOf region (front ++ text ++ behind) ↔ behind = [] ∨ IsHostOf region behind := by
  constructor
  · rintro ⟨_, ⟨hname, sep, hsep, tld, ht, rfl⟩, h⟩
    by_cases hb : behind = []
    · exact Or.inl hb
    · obtain ⟨t, rfl⟩ := (end_of_names hn ht ((List.suffix_append _ _).trans h)).resolve_left hb
      obtain ⟨-, sign, -, other, ho, rfl⟩ := hn
      have hr : '.' ∉ region := fun hm =>
        absurd (List.all_eq_true.mp (Bool.and_eq_true_iff.mp hname).2 _ hm) (by decide)
      have hcresta : ".cresta.".toList = '.' :: "cresta".toList ++ ['.'] := by decide
      rw [← List.append_assoc _ t, List.suffix_append_self_iff] at h
      have hfront : front ++ ("api".toList ++ sign :: region ++ (".cresta.".toList ++ other)) ++ t =
          (front ++ ("api".toList ++ sign :: region) ++ ['.']) ++ "cresta".toList ++
            '.' :: (other ++ t) := by
        rw [hcresta]
        simp only [List.append_assoc, List.cons_append, List.nil_append]
      rw [hfront] at h
      have hs := isSuffix_of_dot hr h
      have hlength : ∀ tld ∈ ["ai".toList, "com".toList], tld.length < "api".toList.length + 1 := by
        decide
      rcases Text.isSuffix_of_not_overlaps [] hs (overlaps_api ho _)
        (by simpa using hs.length_le) with rfl | ht'
      · have hle := hs.length_le
        have := hlength other ho
        simp only [List.append_nil, List.length_append, List.length_cons] at hle
        omega
      · exact Or.inr ⟨_, ⟨hname, sep, hsep, tld, ht, rfl⟩, List.suffix_append_self_iff.mpr ht'⟩
  · rintro (rfl | ⟨other, ho, h⟩)
    · exact ⟨text, hn, by rw [List.append_nil]; exact List.suffix_append _ _⟩
    · exact ⟨other, ho, h.trans (List.suffix_append _ _)⟩

/-- An endpoint that gives a region names it somewhere. -/
theorem exists_names_of_ofDomain? {given region : String} (h : ofDomain? given = some region) :
    ∃ text, Names text region.toList ∧ text <:+: given.toList := by
  obtain ⟨name, hs, rfl⟩ := Option.map_eq_some_iff.mp h
  rw [String.toList_ofList]
  exact exists_names_of_search hs

/-- What names a region in an endpoint that is written out is in its user or in its host, and in
    that case it stands in the host that is called as it is. -/
theorem host_of_names (hn : Names text region) {domain : String} {base : Url}
    {user host : List Char} (hw : Domain.written? domain = some (user, host))
    (hd : Domain.parse domain = .ok base) (ht : text <:+: domain.toList) :
    text <:+: user ∨ ∃ front behind, host = front ++ text ++ behind ∧
      base.host? = some (.name (lower front ++ text ++ lower behind)) := by
  have hsign : ∀ sign ∈ [':', '/', '@'], sign ∉ text := by
    intro sign hs hm
    have hnone : ∀ sign ∈ [':', '/', '@'], ¬ (isNameChar sign = true ∨ sign = '.') :=
      Text.forall_of_all (by decide)
    exact hnone sign hs (hn.forall sign hm)
  refine (Domain.isInfix_of_written hw hd ht hsign hn.mem.1).imp_right ?_
  rintro ⟨front, behind, rfl⟩
  have hlower : lower (front ++ text ++ behind) = lower front ++ text ++ lower behind := by
    rw [lower, List.map_append, List.map_append]
    exact congrArg (lower front ++ · ++ lower behind) hn.lower_eq
  have hp : 'p' ∈ lower (front ++ text ++ behind) := by
    rw [hlower]
    exact List.mem_append_left _ (List.mem_append_right _ hn.mem.2)
  refine ⟨front, behind, rfl, ?_⟩
  rw [← hlower]
  exact Domain.host_of_written hw hd (by decide) (by decide) hp

end Region

/-! ### Endpoints that are given -/

theorem Domain.isSuffix_withScheme (given : String) :
    given.toList <:+ (withScheme given).toList := by
  unfold withScheme
  split
  · exact List.suffix_refl _
  · rw [String.toList_append]
    exact List.suffix_append _ _

/-- Without a region it is the one that the endpoint gives. -/
theorem Plan.ofDomain?_of_chosenRegion {env : Environment} {event : Event} {given region : String}
    (hr : input? env event "region" = none)
    (h : chosenRegion env event (some given) = .ok region) :
    Region.ofDomain? given = some region := by
  unfold chosenRegion at h
  rw [hr] at h
  simp only at h
  split at h
  · rename_i named hn
    exact hn.trans (congrArg some (Except.ok.inj h))
  · cases h

/-- Requests go to the host of the endpoint. -/
theorem Transfer.host_of_request {t : Transfer} {base built : Url} {action : Action}
    (hd : Domain.parse t.domain = .ok base)
    (hb : Url.parse (t.request action).url = .ok built) : built.host? = base.host? := by
  obtain ⟨tail, -, ht, -, he⟩ := t.exists_tail action
  have ha := (Domain.authority_of_parse_append hd ht he hb).2
  rw [Url.host?, Url.host?, ha]

namespace Gateway

/-- AS NAMED: where an endpoint but no region is given, the region is one that something in the
    endpoint names, and the requests go to the host of the endpoint. If the endpoint is written out
    and it is the host that holds the name, then that host is one of the region exactly if nothing
    stands behind the name or what stands there is a host of the region itself, and so it is with
    the domains that regions are under. If it is the user that holds the name, the requests still go
    to the host. -/
theorem handle_named {settings : Settings} {event : Event} {plan : Plan} {given : String}
    (hm : Plan.make settings.env event = .ok plan)
    (hr : Plan.input? settings.env event "region" = none)
    (hg : Plan.input? settings.env event "apiDomain" = some given) :
    plan.domain = Domain.withScheme given ∧
      ∃ base text, Domain.parse plan.domain = .ok base ∧
        (∀ built, Url.parse ((transfer settings event plan).request plan.action).url = .ok built →
          built.host? = base.host?) ∧
        Region.Names text plan.region.toList ∧ text <:+: given.toList ∧
        ∀ user host, Domain.written? plan.domain = some (user, host) →
          (∃ called, Url.Host.ofSpecial host = .ok called ∧ base.host? = some called) ∧
          (text <:+: user ∨ ∃ front behind, host = front ++ text ++ behind ∧
            base.host? = some (.name (lower front ++ text ++ lower behind)) ∧
            (Region.IsHostOf plan.region.toList (lower front ++ text ++ lower behind) ↔
              behind = [] ∨ Region.IsHostOf plan.region.toList (lower behind)) ∧
            (Region.IsInside (lower front ++ text ++ lower behind) ↔
              behind = [] ∨ Region.IsInside (lower behind))) := by
  have hmade := Plan.make_eq_ok_iff.mp hm
  have hregion := hmade.region
  have hdomain := hmade.domain
  rw [hg] at hregion hdomain
  obtain ⟨hd, base, hbase⟩ := Plan.chosenDomain_some_eq_ok_iff.mp hdomain
  obtain ⟨text, hn, ht⟩ :=
    Region.exists_names_of_ofDomain? (Plan.ofDomain?_of_chosenRegion hr hregion)
  have hin : text <:+: plan.domain.toList := by
    rw [hd]
    exact ht.trans (Domain.isSuffix_withScheme given).isInfix
  refine ⟨hd, base, text, hbase, fun built => Transfer.host_of_request hbase, hn, ht,
    fun user host hw => ⟨Domain.ofSpecial_of_written hw hbase, ?_⟩⟩
  refine (Region.host_of_names hn hw hbase hin).imp_right ?_
  rintro ⟨front, behind, hh, hcalled⟩
  have hnil : lower behind = [] ↔ behind = [] := List.map_eq_nil_iff
  refine ⟨front, behind, hh, hcalled, ?_, ?_⟩
  · rw [Region.isHostOf_iff hn, hnil]
  · rw [Region.isInside_iff hn, hnil]

/-- A region behind another word in an endpoint with a user and a port. -/
theorem handle_named_port :
    ∃ (settings : Settings) (event : Event) (plan : Plan) (base : Url) (text : List Char),
      Plan.make settings.env event = .ok plan ∧ plan.region = "voice-prod" ∧
        plan.domain = "https://me@beta-api-voice-prod.cresta.ai:8443/" ∧
        Domain.parse plan.domain = .ok base ∧
        base.host? = some (.name "beta-api-voice-prod.cresta.ai".toList) ∧
        Region.Names text "voice-prod".toList ∧
        text <:+: "beta-api-voice-prod.cresta.ai".toList := by
  let settings : Settings := .ofEnvironment ⟨[("apiKey", "key"),
    ("apiDomain", "me@beta-api-voice-prod.cresta.ai:8443/")]⟩
  let event : Event := ⟨[], [("action", "get_handoff_data"),
    ("virtualAgentName", "customers/acme/profiles/main/virtualAgents/va")], none⟩
  let plan : Plan := {
    region := "voice-prod", domain := "https://me@beta-api-voice-prod.cresta.ai:8443/"
    authDomain := none, action := .handoff, agent := ⟨"acme", "main", "va"⟩, secretArn := none
    clientId := none, clientSecret := none, apiKey := some "key" }
  have hm : Plan.make settings.env event = .ok plan := Plan.make_eq_ok_iff.mpr
    ⟨by decide +kernel, by decide +kernel, by decide +kernel, by decide +kernel, by decide +kernel,
      by decide +kernel, by decide +kernel, by decide +kernel, by decide +kernel,
      by decide +kernel⟩
  have hg : Plan.input? settings.env event "apiDomain" =
      some "me@beta-api-voice-prod.cresta.ai:8443/" := by
    decide +kernel
  obtain ⟨-, base, text, hbase, -, hn, -, hnamed⟩ := handle_named hm (by decide +kernel) hg
  have hw : Domain.written? plan.domain =
      some ("me".toList, "beta-api-voice-prod.cresta.ai".toList) := by
    decide +kernel
  have hin : text <:+: "beta-api-voice-prod.cresta.ai".toList := by
    rcases (hnamed _ _ hw).2 with hu | ⟨front, behind, hh, -⟩
    · exact absurd (hu.mem hn.mem.1) (by decide)
    · exact ⟨front, behind, hh.symm⟩
  have hhost := Domain.host_of_written hw hbase (by decide : Text.Hex.value? 'p' = none)
    (by decide) (by decide +kernel)
  exact ⟨settings, event, plan, base, text, hm, rfl, rfl, hbase,
    hhost.trans (by decide +kernel), hn, hin⟩

/-- A host that goes on behind what names a region: it is neither a host of that region nor one
    below the domains of regions, and the requests go there. -/
theorem handle_named_elsewhere :
    ∃ (settings : Settings) (event : Event) (plan : Plan) (built : Url) (host : List Char),
      Plan.input? settings.env event "region" = none ∧
        Plan.input? settings.env event "apiDomain" =
          some "https://api.us-west-2-prod.cresta.com.evil.com" ∧
        Plan.make settings.env event = .ok plan ∧ plan.region = "us-west-2-prod" ∧
        Url.parse ((transfer settings event plan).request plan.action).url = .ok built ∧
        host = "api.us-west-2-prod.cresta.com.evil.com".toList ∧
        built.host? = some (.name host) ∧
        ¬ Region.IsHostOf plan.region.toList host ∧ ¬ Region.IsInside host := by
  let settings : Settings := .ofEnvironment ⟨[("apiKey", "key"),
    ("apiDomain", "https://api.us-west-2-prod.cresta.com.evil.com")]⟩
  let event : Event := ⟨[], [("action", "get_handoff_data"),
    ("virtualAgentName", "customers/acme/profiles/main/virtualAgents/va")], none⟩
  let plan : Plan := {
    region := "us-west-2-prod", domain := "https://api.us-west-2-prod.cresta.com.evil.com"
    authDomain := none, action := .handoff, agent := ⟨"acme", "main", "va"⟩, secretArn := none
    clientId := none, clientSecret := none, apiKey := some "key" }
  have hm : Plan.make settings.env event = .ok plan := Plan.make_eq_ok_iff.mpr
    ⟨by decide +kernel, by decide +kernel, by decide +kernel, by decide +kernel, by decide +kernel,
      by decide +kernel, by decide +kernel, by decide +kernel, by decide +kernel,
      by decide +kernel⟩
  have hg : Plan.input? settings.env event "apiDomain" =
      some "https://api.us-west-2-prod.cresta.com.evil.com" := by
    decide +kernel
  have hdomain := (Plan.make_eq_ok_iff.mp hm).domain
  rw [hg] at hdomain
  obtain ⟨-, base, hbase⟩ := Plan.chosenDomain_some_eq_ok_iff.mp hdomain
  have hw : Domain.written? plan.domain =
      some ([], "api.us-west-2-prod.cresta.com.evil.com".toList) := by
    decide +kernel
  have hhost := Domain.host_of_written hw hbase (by decide : Text.Hex.value? 'p' = none)
    (by decide) (by decide +kernel)
  obtain ⟨tail, -, -, hb⟩ := Transfer.parse_request_of_isPlainOrigin
    (t := transfer settings event plan) (by decide +kernel) hbase plan.action
  have houtside : ¬ Region.IsInside "api.us-west-2-prod.cresta.com.evil.com".toList := by
    unfold Region.IsInside
    decide
  exact ⟨settings, event, plan, _, _, by decide +kernel, hg, hm, rfl, hb, rfl,
    (Transfer.host_of_request hbase hb).trans (hhost.trans (by decide +kernel)),
    mt Region.IsHostOf.isInside houtside, houtside⟩

end Gateway

end CallTransfer
