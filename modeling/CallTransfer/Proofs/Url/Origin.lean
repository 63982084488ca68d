import CallTransfer.Domain
import CallTransfer.Proofs.Url.Blank
import CallTransfer.Proofs.Url.Network

/-!
    The origin of a URL, and of an endpoint that goes on. An endpoint is checked as it is given but
    called without the slashes at its end and with a path appended. What the check leaves out of the
    text (blanks in front of those slashes) then counts, as part of the place: the authority stays,
    or there is none any more.
-/

namespace CallTransfer.Url

/-- Who is talked to, and how. -/
structure Origin where
  scheme : List Char
  host : Option Host
  port : Option Nat
  deriving DecidableEq, Repr

/-- The origin of a URL. -/
def origin (url : Url) : Origin := ⟨url.scheme, url.host?, url.effectivePort?⟩

/-- Scheme and authority are the origin, whatever follows. -/
theorem origin_eq {url other : Url} (hs : url.scheme = other.scheme)
    (ha : url.authority = other.authority) : url.origin = other.origin := by
  simp only [origin, host?, effectivePort?, hs, ha]

/-! ### What was left out of a text -/

/-- A sign that is not in what follows a text stands in the text itself. -/
theorem exists_of_append_eq_append_cons {s t front behind : List Char} {sign : Char}
    (ht : sign ∉ t) (h : s ++ t = front ++ sign :: behind) :
    ∃ stem, s = front ++ sign :: stem ∧ stem ++ t = behind := by
  rcases List.append_eq_append_iff.mp h with ⟨mid, -, hm⟩ | ⟨mid, hs, hm⟩
  · exact absurd (hm ▸ List.mem_append_right mid List.mem_cons_self) ht
  · cases mid with
    | nil =>
      obtain rfl : sign :: behind = t := hm
      exact absurd List.mem_cons_self ht
    | cons first stem =>
      obtain ⟨rfl, hb⟩ := List.cons.inj hm
      exact ⟨stem, hs, hb.symm⟩

/-- A text that goes on after the slashes at its end, against the text itself: up to slashes on the
    one side and blanks on the other they are the same. -/
theorem exists_unbroken_append {s : List Char} (slashes : List Char)
    (hs : ∃ c ∈ s, isOuterBlank c = false) :
    ∃ blanks, unbroken (s.dropWhile isOuterBlank) ++ unbroken slashes =
        clean (s ++ slashes) ++ blanks ∧ ∀ c ∈ blanks, isOuterBlank c = true := by
  obtain ⟨blanks, he, hb⟩ :=
    dropEndWhile_append_takeEnd isOuterBlank (s.dropWhile isOuterBlank ++ slashes)
  refine ⟨unbroken blanks, ?_, fun c hc => hb c (mem_of_mem_unbroken hc)⟩
  calc unbroken (s.dropWhile isOuterBlank) ++ unbroken slashes
      = unbroken (s.dropWhile isOuterBlank ++ slashes) := (unbroken_append _ _).symm
    _ = unbroken (Text.dropEndWhile isOuterBlank (s.dropWhile isOuterBlank ++ slashes) ++ blanks) :=
        congrArg unbroken he
    _ = clean (s ++ slashes) ++ unbroken blanks := by
        rw [unbroken_append, clean, Text.trimBy, dropWhile_append_of_exists hs]
        rfl

/-- The scheme of a text and that of the text going on are the same, and what is behind them is the
    same up to slashes and blanks. -/
theorem exists_stem {s slashes scheme rest : List Char} (hk : ∀ c ∈ slashes, c = '/')
    (hs : splitScheme? (clean (s ++ slashes)) = some (scheme, rest)) :
    ∃ stem blanks, splitScheme? (unbroken (s.dropWhile isOuterBlank)) = some (scheme, stem) ∧
      stem ++ unbroken slashes = rest ++ blanks ∧ (∀ c ∈ blanks, isOuterBlank c = true) ∧
      ∃ c ∈ s, isOuterBlank c = false := by
  obtain ⟨name, hc, hn, ha, rfl⟩ := splitScheme?_eq_some_iff.mp hs
  have hcolon : ':' ∉ slashes := fun h => absurd (hk _ h) (by decide)
  -- the colon is no slash, so it stands in the text that goes on
  have hmem : ':' ∈ s := by
    have h : ':' ∈ clean (s ++ slashes) := by
      rw [hc]
      exact List.mem_append_right name List.mem_cons_self
    have h := List.mem_append.mp (mem_of_mem_clean h)
    exact h.resolve_right hcolon
  have hink : ∃ c ∈ s, isOuterBlank c = false := ⟨':', hmem, by decide⟩
  obtain ⟨blanks, he, hb⟩ := exists_unbroken_append slashes hink
  have hsplit : unbroken (s.dropWhile isOuterBlank) ++ unbroken slashes =
      name ++ ':' :: (rest ++ blanks) := by
    rw [he, hc, List.append_assoc, List.cons_append]
  obtain ⟨stem, hu, hr⟩ := exists_of_append_eq_append_cons
    (fun h => hcolon (mem_of_mem_unbroken h)) hsplit
  exact ⟨stem, blanks, splitScheme?_eq_some_iff.mpr ⟨name, hu, hn, ha, rfl⟩, hr, hb, hink⟩

/-- The place of what goes on is the one that was checked, or it ends in a blank. -/
theorem placeOf_stem {stem slashes rest blanks : List Char} (hk : ∀ c ∈ slashes, c = '/')
    (he : stem ++ slashes = rest ++ blanks) (hb : ∀ c ∈ blanks, isOuterBlank c = true)
    (hr : placeOf rest ≠ []) :
    stem.dropWhile (isSlash true) ≠ [] ∧
      (placeOf stem = placeOf rest ∨
        ∃ front c, placeOf stem = front ++ [c] ∧ isOuterBlank c = true) := by
  have hd := dropWhile_ne_nil_of_placeOf hr
  have hstem : stem.dropWhile (isSlash true) ≠ [] := by
    intro h
    have hall : ∀ c ∈ rest, isSlash true c = true := by
      intro c hc
      have hm : c ∈ stem ++ slashes := he ▸ List.mem_append_left blanks hc
      rcases List.mem_append.mp hm with hm | hm
      · exact List.dropWhile_eq_nil_iff.mp h c hm
      · rw [hk c hm]
        rfl
    exact hd (List.dropWhile_eq_nil_iff.mpr hall)
  have hends : placeOf (stem ++ slashes) = placeOf stem := by
    cases slashes with
    | nil => rw [List.append_nil]
    | cons c slashes =>
      refine placeOf_append_slash hstem ?_ slashes
      rw [hk c List.mem_cons_self]
      rfl
  refine ⟨hstem, ?_⟩
  rw [← hends, he]
  rcases placeOf_append_of_forall hd fun c hc => isSlash_of_isOuterBlank (hb c hc) with hp | hp
  · exact Or.inl hp
  · rcases List.eq_nil_or_concat blanks with rfl | ⟨front, c, rfl⟩
    · exact Or.inl (by rw [hp, List.append_nil])
    · rw [List.concat_eq_append] at hp hb
      refine Or.inr ⟨placeOf rest ++ front, c, ?_, hb c List.mem_concat_self⟩
      rw [List.concat_eq_append, hp, List.append_assoc]

/-! ### Endpoints that go on -/

/-- A path that is appended still starts with its slash when it is cut. -/
theorem exists_cut_slash (tail : List Char) :
    ∃ path, (cut '?' (cut '#' (unbroken ('/' :: tail))).1).1 = '/' :: path := by
  have hu : unbroken ('/' :: tail) = ['/'] ++ unbroken tail := rfl
  have hf : '#' ∉ ['/'] := by decide
  have hq : '?' ∉ ['/'] := by decide
  simp only [hu, cut_append hf, cut_append hq]
  exact ⟨_, rfl⟩

/-- A URL of the network without query and fragment: its place and its path stand behind the scheme,
    without the signs of either. -/
theorem exists_rest_of_parse {text : String} {url : Url} (h : parse text = .ok url)
    (hk : Kind.ofScheme url.scheme = .network) (hq : url.query = none)
    (hf : url.fragment = none) :
    ∃ rest, splitScheme? (clean text.toList) = some (url.scheme, rest) ∧ '#' ∉ rest ∧ '?' ∉ rest ∧
      ∃ authority, readAuthority (defaultPort? url.scheme) (placeOf rest) = .ok authority ∧
        url.authority = some authority ∧
        url.path = .ofSegments (segmentsOf true (behindPlace rest)) := by
  obtain ⟨rest, hs⟩ := exists_splitScheme?_of_parse h
  rw [parse_of_network hs hk] at h
  obtain ⟨⟨authority?, path⟩, hn, he⟩ := Check.map_eq_ok_iff.mp h
  have hf : '#' ∉ rest := by
    rw [← he] at hf
    exact cut_snd_eq_none_iff.mp (Option.map_eq_none_iff.mp hf)
  have hq : '?' ∉ rest := by
    rw [← he] at hq
    rw [cut_of_not_mem hf] at hq
    exact cut_snd_eq_none_iff.mp (Option.map_eq_none_iff.mp hq)
  rw [cut_of_not_mem hf, cut_of_not_mem hq, readNetwork_eq] at hn
  obtain ⟨authority, ha, hp⟩ := Check.map_eq_ok_iff.mp hn
  refine ⟨rest, hs, hf, hq, authority, ha, ?_⟩
  rw [← he]
  exact ⟨(congrArg Prod.fst hp).symm, (congrArg Prod.snd hp).symm⟩

end CallTransfer.Url

namespace CallTransfer.Domain

open Url

/-- Endpoints are reached over the network. -/
theorem kind_of_isTrusted {scheme host : List Char} (h : isTrusted scheme host = true) :
    Kind.ofScheme scheme = .network := by
  simp only [isTrusted, Bool.or_eq_true, Bool.and_eq_true, beq_iff_eq] at h
  rcases h with rfl | ⟨rfl, -⟩ <;> decide +kernel

/-- What stands behind the scheme of an endpoint: the REST, as it was checked, and the STEM, as it
    goes on. Up to slashes behind the one and blanks behind the other they are the same. -/
structure IsCut (domain : String) (base : Url) (stem slashes rest blanks : List Char) : Prop where
  ink : ∃ c ∈ (bare domain).toList, isOuterBlank c = false
  scheme : splitScheme? (unbroken ((bare domain).toList.dropWhile isOuterBlank)) =
    some (base.scheme, stem)
  checked : splitScheme? (clean domain.toList) = some (base.scheme, rest)
  network : Kind.ofScheme base.scheme = .network
  same : stem ++ slashes = rest ++ blanks
  slash : ∀ c ∈ slashes, c = '/'
  blank : ∀ c ∈ blanks, isOuterBlank c = true
  noFragment : '#' ∉ rest
  noQuery : '?' ∉ rest
  authority : ∃ authority, readAuthority (defaultPort? base.scheme) (placeOf rest) = .ok authority ∧
    base.authority = some authority
  path : base.path = .ofSegments (segmentsOf true (behindPlace rest))
  noPath : base.pathText = [] ∨ base.pathText = ['/']

/-- Every endpoint has both. -/
theorem exists_isCut {domain : String} {base : Url} (hd : parse domain = .ok base) :
    ∃ stem slashes rest blanks, IsCut domain base stem slashes rest blanks := by
  obtain ⟨-, hu, host, -, ho⟩ := parse_eq_ok_iff.mp hd
  obtain ⟨hT, hn, hq, hf, -⟩ := originFault?_eq_none_iff.mp ho
  have hk := kind_of_isTrusted hT
  obtain ⟨rest, hs, hf, hq, authority, ha, hbase, hpath⟩ := exists_rest_of_parse hu hk hq hf
  obtain ⟨slashes, hsl, hall⟩ := dropEndWhile_append_takeEnd (· == '/') domain.toList
  have hall : ∀ c ∈ slashes, c = '/' := fun c hc => eq_of_beq (hall c hc)
  have hcut := hs
  rw [hsl] at hcut
  obtain ⟨stem, blanks, hstem, heq, hbl, hi⟩ := exists_stem hall hcut
  exact ⟨stem, unbroken slashes, rest, blanks, by rwa [bare, String.toList_ofList],
    by rwa [bare, String.toList_ofList], hs, hk, heq,
    fun c hc => hall c (mem_of_mem_unbroken hc), hbl, hf, hq, ⟨authority, ha, hbase⟩, hpath, hn⟩

namespace IsCut

variable {domain : String} {base : Url} {stem slashes rest blanks : List Char}

/-- No authority without a place. -/
theorem placeOf_rest (h : IsCut domain base stem slashes rest blanks) : placeOf rest ≠ [] := by
  obtain ⟨authority, ha, -⟩ := h.authority
  intro hp
  rw [hp] at ha
  cases ha

/-- The stem has a place: the one that was checked, or one that ends in a blank. -/
theorem placeOf_stem (h : IsCut domain base stem slashes rest blanks) :
    stem.dropWhile (isSlash true) ≠ [] ∧
      (placeOf stem = placeOf rest ∨
        ∃ front c, placeOf stem = front ++ [c] ∧ isOuterBlank c = true) :=
  Url.placeOf_stem h.slash h.same h.blank h.placeOf_rest

/-- A sign that was not there when the endpoint was checked is not there when it goes on. -/
theorem not_mem_stem (h : IsCut domain base stem slashes rest blanks) {sign : Char}
    (hn : isOuterBlank sign = false) (hr : sign ∉ rest) : sign ∉ stem := by
  intro hm
  have hm : sign ∈ rest ++ blanks := h.same ▸ List.mem_append_left _ hm
  rcases List.mem_append.mp hm with hm | hm
  · exact hr hm
  · rw [h.blank sign hm] at hn
    cases hn

/-- No authority but the endpoint's own is read when it goes on. -/
theorem authority_of_stem (h : IsCut domain base stem slashes rest blanks) {authority : Authority}
    (hr : readAuthority (defaultPort? base.scheme) (placeOf stem) = .ok authority) :
    base.authority = some authority := by
  obtain ⟨checked, ha, hbase⟩ := h.authority
  rcases h.placeOf_stem.2 with hp | ⟨front, c, hp, hc⟩
  · rw [hp, ha] at hr
    cases hr
    exact hbase
  · rw [hp] at hr
    exact absurd hr (readAuthority_concat (of_decide_eq_true hc) _ front authority)

/-- An endpoint that goes on with a path: the path follows the stem, up to its own signs. -/
theorem parse_append (h : IsCut domain base stem slashes rest blanks) {text : String}
    {tail : List Char} (ht : text.toList = (bare domain).toList ++ '/' :: tail)
    (he : endsInInk ('/' :: tail) = true) :
    Url.parse text =
      (readNetwork (defaultPort? base.scheme)
        (stem ++ (cut '?' (cut '#' (unbroken ('/' :: tail))).1).1)).map fun place =>
        { scheme := base.scheme, authority := place.1, path := place.2
          query := (cut '?' (cut '#' (unbroken ('/' :: tail))).1).2.map
            (Percent.encode Percent.specialQuery)
          fragment := (cut '#' (unbroken ('/' :: tail))).2.map
            (Percent.encode Percent.fragment) } :=
  parse_of_stem ht h.ink he h.scheme h.network (h.not_mem_stem (by decide) h.noFragment)
    (h.not_mem_stem (by decide) h.noQuery)

end IsCut

/-- SAME PLACE: an endpoint that goes on with a path, called as a URL, has the scheme and the
    authority of the endpoint itself. -/
theorem authority_of_parse_append {domain text : String} {base built : Url} {tail : List Char}
    (hd : parse domain = .ok base) (ht : text.toList = (bare domain).toList ++ '/' :: tail)
    (he : endsInInk ('/' :: tail) = true) (hb : Url.parse text = .ok built) :
    built.scheme = base.scheme ∧ built.authority = base.authority := by
  obtain ⟨stem, slashes, rest, blanks, h⟩ := exists_isCut hd
  rw [h.parse_append ht he] at hb
  obtain ⟨place, hn, rfl⟩ := Check.map_eq_ok_iff.mp hb
  obtain ⟨path, hpath⟩ := exists_cut_slash tail
  rw [hpath, readNetwork_eq, placeOf_append_slash h.placeOf_stem.1 rfl] at hn
  obtain ⟨reached, hr, hp⟩ := Check.map_eq_ok_iff.mp hn
  rw [h.authority_of_stem hr]
  exact ⟨rfl, (congrArg Prod.fst hp).symm⟩

end CallTransfer.Domain
