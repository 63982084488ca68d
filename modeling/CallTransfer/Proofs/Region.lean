import CallTransfer.Proofs.Gateway.Naming

/-!
    Regions and their endpoints, THERE AND BACK. An endpoint is made of a region in small letters,
    and the first place in it that looks like the host of a region is that of the region it is made
    of, whatever the name looks like itself; so the region is read back, in small letters. Such an
    endpoint has its scheme, and it is an origin without fault with the host that is written.
-/

namespace CallTransfer

open Text (lower after?)
open Url (between isHostChar isSlash)

/-! ### Searching a text -/

namespace Text

variable [BEq α] [LawfulBEq α] {first c : α} {start s rest : List α}

theorem after?_cons_of_ne (h : first ≠ c) : after? (first :: start) (c :: s) = none := by
  refine Option.eq_none_iff_forall_ne_some.mpr fun rest hr => h ?_
  exact (List.cons.inj (after?_eq_some_iff.mp hr)).1.symm

/-- A part is not found before a place where its first character stands. -/
theorem occurs_append_of_not_mem (h : first ∉ s) (t : List α) :
    occurs (first :: start) (s ++ t) = occurs (first :: start) t := by
  induction s with
  | nil => rfl
  | cons c s ih =>
    obtain ⟨hc, hs⟩ := not_or.mp (mt List.mem_cons.mpr h)
    rw [List.cons_append, occurs, List.isPrefixOf_cons_cons, beq_false_of_ne hc, Bool.false_and,
      Bool.false_or, ih hs]

end Text

namespace Region

variable {name text front : List Char}

/-- A region is searched for from the first place on where its service is called. -/
theorem search_append_of_not_mem (h : 'a' ∉ front) (s : List Char) :
    search (front ++ s) = search s := by
  induction front with
  | nil => rfl
  | cons c front ih =>
    obtain ⟨hc, hf⟩ := not_or.mp (mt List.mem_cons.mpr h)
    have hdash : after? "api-".toList (c :: (front ++ s)) = none := Text.after?_cons_of_ne hc
    have hdot : after? "api.".toList (c :: (front ++ s)) = none := Text.after?_cons_of_ne hc
    rw [List.cons_append, search, hdash, hdot]
    exact ih hf

/-- A name that goes on as an endpoint does is the region at the front, and no shorter one is. -/
theorem leading?_append (hn : isName name = true) {tld : List Char}
    (ht : tld ∈ ["ai".toList, "com".toList]) (behind : List Char) :
    leading? (name ++ (".cresta.".toList ++ tld) ++ behind) = some name := by
  obtain ⟨hne, hall⟩ := Bool.and_eq_true_iff.mp hn
  have hchars := List.all_eq_true.mp hall
  have hclose : closesName (".cresta.".toList ++ tld ++ behind) = true := by
    rcases List.mem_cons.mp ht with rfl | ht
    · rfl
    · rw [List.mem_singleton.mp ht]
      rfl
  have htake : (name ++ (".cresta.".toList ++ tld) ++ behind).takeWhile isNameChar = name := by
    rw [List.append_assoc, List.takeWhile_append_of_pos hchars]
    exact List.append_nil name
  have hdrop : (name ++ (".cresta.".toList ++ tld) ++ behind).dropWhile isNameChar =
      ".cresta.".toList ++ tld ++ behind := by
    rw [List.append_assoc, List.dropWhile_append_of_pos hchars]
    rfl
  rw [leading?, htake, hdrop, hne, hclose]
  rfl

/-- Where a text names a region, that region is found. -/
theorem search_append {region : List Char} (hn : Names text region) (behind : List Char) :
    search (text ++ behind) = some region := by
  obtain ⟨hname, sep, hsep, tld, ht, rfl⟩ := hn
  have hlead := leading?_append hname ht behind
  generalize hr : region ++ (".cresta.".toList ++ tld) ++ behind = rest at hlead
  have htext : "api".toList ++ sep :: region ++ (".cresta.".toList ++ tld) ++ behind =
      'a' :: 'p' :: 'i' :: sep :: rest := by
    rw [← hr]
    simp only [List.append_assoc, List.cons_append]
    rfl
  have hhere : (after? "api-".toList ('a' :: 'p' :: 'i' :: sep :: rest)).orElse
      (fun _ => after? "api.".toList ('a' :: 'p' :: 'i' :: sep :: rest)) = some rest := by
    rcases List.mem_cons.mp hsep with rfl | hsep
    · rfl
    · rw [List.mem_singleton.mp hsep]
      rfl
  rw [htext, search, hhere, Option.bind_some, hlead]

/-! ### Hosts of names -/

/-- The API host of a region is what names it. -/
theorem names_apiHost (h : isName name = true) : Names (apiHost name) name := by
  obtain ⟨tld, ht, he⟩ := ending_eq name
  refine ⟨h, '.', by decide, tld, ht, ?_⟩
  have hdot : "api.".toList = "api".toList ++ ['.'] := by decide
  rw [apiHost, he, hdot]
  simp only [List.append_assoc, List.cons_append, List.nil_append]

theorem isHostChar_apiHost (h : isName name = true) : ∀ c ∈ apiHost name, isHostChar c = true := by
  obtain ⟨tld, ht, hb⟩ := apiHost_eq_between name
  obtain ⟨-, hservice, hcompany, -⟩ := isWord_auth
  rw [hb]
  exact Url.isHostChar_between hservice hcompany ht (isHostChar_of_isName h)

/-- The API host of a name without a code in front is a name itself. -/
theorem ofSpecial_apiHost (h : isName name = true)
    (he : Idna.encodedStart.isPrefixOf name = false) :
    Url.Host.ofSpecial (apiHost name) = .ok (.name (apiHost name)) := by
  obtain ⟨tld, ht, hb⟩ := apiHost_eq_between name
  obtain ⟨-, hservice, hcompany, -⟩ := isWord_auth
  have hchars := forall_of_isName h
  rw [hb, Url.Host.ofSpecial_between hservice hcompany ht (isHostChar_of_isName h)
    (isLowAscii_of_forall hchars).lowerChar_le, toAscii?_eq_self hchars he]

/-- No label of the API host of a region is empty. -/
theorem occurs_dots_apiHost (h : isName name = true) :
    Text.occurs ['.', '.'] (apiHost name) = false := by
  obtain ⟨hne, hall⟩ := Bool.and_eq_true_iff.mp h
  have hdot : '.' ∉ name := fun hm => absurd (List.all_eq_true.mp hall _ hm) (by decide)
  have hfront : "api.".toList = "api".toList ++ ['.'] := by decide
  have hending : Text.occurs ['.', '.'] (ending name) = false := by
    unfold ending
    split <;> decide
  rw [apiHost, hfront, List.append_assoc, List.append_assoc,
    Text.occurs_append_of_not_mem (by decide)]
  cases name with
  | nil => cases hne
  | cons c name =>
    have hc : ('.' == c) = false := beq_false_of_ne fun e => hdot (e ▸ List.mem_cons_self)
    have hstep : Text.occurs ['.', '.'] ('.' :: (c :: name ++ ending (c :: name))) =
        Text.occurs ['.', '.'] (c :: name ++ ending (c :: name)) := by
      rw [List.cons_append, Text.occurs, List.isPrefixOf_cons_cons, List.isPrefixOf_cons_cons, hc,
        Bool.false_and, Bool.and_false, Bool.false_or]
    rw [List.singleton_append, hstep, Text.occurs_append_of_not_mem hdot, hending]

/-! ### Endpoints of regions -/

variable {region domain : String}

theorem withScheme_of_apiDomain? (h : apiDomain? region = some domain) :
    Domain.withScheme domain = domain := by
  have hp : "https://".toList.isPrefixOf domain.toList = true := by
    rw [toList_apiDomain h, List.isPrefixOf_iff_prefix]
    exact List.prefix_append _ _
  rw [Domain.withScheme, hp, Bool.or_true, if_pos rfl]

/-- An endpoint is an origin without fault. -/
theorem parse_of_apiDomain? (h : apiDomain? region = some domain)
    (he : Idna.encodedStart.isPrefixOf (lower region.toList) = false) :
    ∃ url, Domain.parse domain = .ok url ∧
      url.host? = some (.name (apiHost (lower region.toList))) := by
  have hname := (apiDomain?_eq_some_iff.mp h).1
  have ht := toList_apiDomain h
  have hchars := isHostChar_apiHost hname
  have hne : apiHost (lower region.toList) ≠ [] := by simp [apiHost]
  have hparse := Url.parse_of_isHostChar_nil (Url.splitScheme?_https ht) (by decide +kernel) hchars
    hne
  rw [ofSpecial_apiHost hname he] at hparse
  have hhost : (Option.some (Url.Host.name (apiHost (lower region.toList)))).filter
      (fun host => host ≠ .name []) = some (.name (apiHost (lower region.toList))) := by
    simp [hne]
  have hslash : '/' ∉ apiHost (lower region.toList) :=
    Url.not_mem_of_isHostChar hchars (by decide)
  refine ⟨_, Domain.parse_eq_ok_iff.mpr ⟨?_, hparse, _, hhost,
    Domain.originFault?_eq_none_iff.mpr ⟨rfl, Or.inr rfl, rfl, rfl, hslash,
      occurs_dots_apiHost hname⟩⟩, hhost⟩
  rintro rfl
  have hlen := congrArg List.length ht
  simp at hlen

/-- THERE AND BACK: the region that is read off the endpoint of a region is that region in small
    letters, and it has the same endpoint. Such an endpoint stays as it is when a scheme is put in
    front, and, if its name is not in ASCII form, it is accepted with the host that is written. -/
theorem apiDomain_inverse (h : apiDomain? region = some domain) :
    ofDomain? domain = some (String.ofList (lower region.toList)) ∧
      (∀ named, ofDomain? domain = some named → apiDomain? named = some domain) ∧
      Domain.withScheme domain = domain ∧
      (¬ "xn--".toList <+: lower region.toList → ∃ url, Domain.parse domain = .ok url ∧
        url.host? = some (.name ("api.".toList ++ lower region.toList ++
          if isProduction (lower region.toList) then ".cresta.com".toList
          else ".cresta.ai".toList))) := by
  have hname := (apiDomain?_eq_some_iff.mp h).1
  have hback : ofDomain? domain = some (String.ofList (lower region.toList)) := by
    have hfound := search_append (names_apiHost hname) []
    rw [List.append_nil] at hfound
    rw [ofDomain?, toList_apiDomain h, search_append_of_not_mem (by decide), hfound]
    rfl
  refine ⟨hback, fun named hn => ?_, withScheme_of_apiDomain? h, fun he => ?_⟩
  · obtain rfl := Option.some.inj (hback.symm.trans hn)
    refine (apiDomain?_congr ?_).trans h
    rw [String.toList_ofList]
    exact lower_of_isName hname
  · refine parse_of_apiDomain? h (Bool.eq_false_iff.mpr fun hp => he ?_)
    exact List.isPrefixOf_iff_prefix.mp hp

/-- A region that looks like the front of a host itself. -/
theorem apiDomain_inverse_api : ∃ url,
    apiDomain? "API-voice-Prod" = some "https://api.api-voice-prod.cresta.com" ∧
      ofDomain? "https://api.api-voice-prod.cresta.com" = some "api-voice-prod" ∧
      Domain.parse "https://api.api-voice-prod.cresta.com" = .ok url ∧
      url.host? = some (.name "api.api-voice-prod.cresta.com".toList) := by
  have h : apiDomain? "API-voice-Prod" = some "https://api.api-voice-prod.cresta.com" := by
    decide +kernel
  have hlower : lower "API-voice-Prod".toList = "api-voice-prod".toList := by decide +kernel
  obtain ⟨hback, -, -, hparse⟩ := apiDomain_inverse h
  rw [hlower] at hback hparse
  obtain ⟨url, hurl, hhost⟩ := hparse (by decide)
  exact ⟨url, h, hback.trans (by decide +kernel), hurl, hhost.trans (by decide +kernel)⟩

end Region

end CallTransfer
