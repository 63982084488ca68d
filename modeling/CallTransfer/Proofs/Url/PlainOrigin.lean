import CallTransfer.Proofs.Url.Origin

/-!
    Plain origins: a scheme, two slashes and a host, with or without a port. Nothing in such a text
    is left out when it is read, so a path that is appended is read as it would be on its own, and
    an endpoint that is a plain origin is one for every path.
-/

namespace CallTransfer.Url

/-- A character that stands for itself in a host with its port. -/
def isPlaceChar (c : Char) : Bool := !isOuterBlank c && !"/\\?#@".toList.contains c

/-- Whether a text is a scheme, two slashes, a host and perhaps a port, and nothing else. -/
def isPlainOrigin (text : String) : Bool :=
  match splitScheme? text.toList with
  | some (_, '/' :: '/' :: place) => place.all isPlaceChar
  | _ => false

theorem isPlainOrigin_iff {text : String} :
    isPlainOrigin text = true ↔ ∃ scheme place,
      splitScheme? text.toList = some (scheme, '/' :: '/' :: place) ∧
        ∀ c ∈ place, isPlaceChar c = true := by
  unfold isPlainOrigin
  constructor
  · intro h
    split at h
    · rename_i scheme place hs
      exact ⟨scheme, place, hs, List.all_eq_true.mp h⟩
    · cases h
  · rintro ⟨scheme, place, hs, hp⟩
    rw [hs]
    exact List.all_eq_true.mpr hp

/-- A character of a place is neither a blank nor a sign. -/
theorem not_blank_of_isPlaceChar {c : Char} (h : isPlaceChar c = true) :
    isOuterBlank c = false ∧ c ∉ "/\\?#@".toList := by
  simpa [isPlaceChar] using h

theorem isSlash_of_isPlaceChar {c : Char} (h : isPlaceChar c = true) : isSlash true c = false := by
  have hn := (not_blank_of_isPlaceChar h).2
  have hs : c ≠ '/' ∧ c ≠ '\\' := by
    constructor <;> (rintro rfl; exact hn (by decide))
  simp [isSlash, hs]

/-- No blank is in a scheme. -/
theorem isOuterBlank_of_isSchemeChar {c : Char} (h : isSchemeChar c = true) :
    isOuterBlank c = false := by
  have hall : ∀ n < 33, isSchemeChar (Char.ofNat n) = false := by decide
  refine decide_eq_false fun hc => ?_
  have hn := hall c.toNat (Nat.lt_succ_of_le hc)
  rw [Char.ofNat_toNat, h] at hn
  cases hn

/-- Tabs and line ends are blanks. -/
theorem isLineBlank_of_not_isOuterBlank {c : Char} (h : isOuterBlank c = false) :
    isLineBlank c = false := by
  have hn : c ≠ '\t' ∧ c ≠ '\n' ∧ c ≠ '\r' := by
    refine ⟨?_, ?_, ?_⟩ <;> (rintro rfl; revert h; decide)
  simp [isLineBlank, hn]

theorem dropWhile_of_forall {p : α → Bool} {s : List α} (h : ∀ a ∈ s, p a = false) :
    s.dropWhile p = s := by
  cases s with
  | nil => rfl
  | cons a s => rw [List.dropWhile_cons, h a List.mem_cons_self, if_neg (by decide)]

theorem dropEndWhile_of_forall {p : α → Bool} {s : List α} (h : ∀ a ∈ s, p a = false) :
    Text.dropEndWhile p s = s := by
  rw [Text.dropEndWhile, dropWhile_of_forall fun a ha => h a (List.mem_reverse.mp ha),
    List.reverse_reverse]

/-- All of a text without blanks counts. -/
theorem clean_of_forall {s : List Char} (h : ∀ c ∈ s, isOuterBlank c = false) : clean s = s := by
  rw [clean, Text.trimBy, dropWhile_of_forall h, dropEndWhile_of_forall h]
  exact unbroken_of_forall fun c hc => isLineBlank_of_not_isOuterBlank (h c hc)

/-- Where no blank is in the place, none is in the whole text. -/
theorem not_blank_of_splitScheme? {text scheme place : List Char}
    (hs : splitScheme? text = some (scheme, '/' :: '/' :: place))
    (hp : ∀ c ∈ place, isOuterBlank c = false) : ∀ c ∈ text, isOuterBlank c = false := by
  obtain ⟨name, ht, hn, -, -⟩ := splitScheme?_eq_some_iff.mp hs
  intro c hc
  rw [ht, List.mem_append, List.mem_cons, List.mem_cons, List.mem_cons] at hc
  rcases hc with hc | rfl | rfl | rfl | hc
  · exact isOuterBlank_of_isSchemeChar (hn c hc)
  · decide
  · decide
  · decide
  · exact hp c hc

/-- No blank is in a plain origin. -/
theorem not_blank_of_isPlainOrigin {text : String} (h : isPlainOrigin text = true) :
    ∀ c ∈ text.toList, isOuterBlank c = false := by
  obtain ⟨scheme, place, hs, hp⟩ := isPlainOrigin_iff.mp h
  exact not_blank_of_splitScheme? hs fun c hc => (not_blank_of_isPlaceChar (hp c hc)).1

/-! ### Reading a plain origin -/

variable {place : List Char}

/-- A place without slashes is all that stands behind the two of them. -/
theorem placeOf_of_not_isSlash (hn : ∀ c ∈ place, isSlash true c = false) :
    placeOf ('/' :: '/' :: place) = place := by
  have hd : ('/' :: '/' :: place).dropWhile (isSlash true) = place :=
    dropWhile_of_forall hn
  rw [placeOf, hd]
  exact List.takeWhile_eq_self_iff.mpr fun c hc => by rw [hn c hc]; rfl

/-- The place of a plain origin is all that stands behind its slashes. -/
theorem placeOf_slashes (h : ∀ c ∈ place, isPlaceChar c = true) :
    placeOf ('/' :: '/' :: place) = place :=
  placeOf_of_not_isSlash fun c hc => isSlash_of_isPlaceChar (h c hc)

/-- A path behind the place of a plain origin is all that is behind it. -/
theorem behindPlace_slashes (h : ∀ c ∈ place, isPlaceChar c = true) (hn : place ≠ [])
    (path : List Char) : behindPlace ('/' :: '/' :: (place ++ '/' :: path)) = path := by
  have hs : ∀ c ∈ place, isSlash true c = false := fun c hc => isSlash_of_isPlaceChar (h c hc)
  have hd : ('/' :: '/' :: (place ++ '/' :: path)).dropWhile (isSlash true) =
      place ++ '/' :: path := by
    have hp : place.dropWhile (isSlash true) = place := dropWhile_of_forall hs
    change (place ++ '/' :: path).dropWhile (isSlash true) = _
    rw [List.dropWhile_append, hp, if_neg (by simpa using hn)]
  rw [behindPlace, hd, List.dropWhile_append_of_pos fun c hc => by rw [hs c hc]; rfl]
  rfl

/-- What is behind the scheme of a plain origin, and a path: the place is the authority. -/
theorem readNetwork_slashes (h : ∀ c ∈ place, isPlaceChar c = true) (hn : place ≠ [])
    (default : Option Nat) (path : List Char) :
    readNetwork default ('/' :: '/' :: place ++ '/' :: path) =
      (readAuthority default place).map fun authority =>
        (some authority, .ofSegments (segmentsOf true path)) := by
  have hd : ('/' :: '/' :: place).dropWhile (isSlash true) ≠ [] :=
    dropWhile_ne_nil_of_placeOf (by rwa [placeOf_slashes h])
  have hb : behindPlace ('/' :: '/' :: place ++ '/' :: path) = path := behindPlace_slashes h hn path
  rw [readNetwork_eq, placeOf_append_slash hd rfl, placeOf_slashes h, hb]

/-- No sign but the two slashes is behind the scheme of a plain origin. -/
theorem not_mem_slashes {sign : Char} (h : ∀ c ∈ place, isPlaceChar c = true)
    (hs : sign ∉ ['/', '/']) (hm : sign ∈ "/\\?#@".toList) : sign ∉ '/' :: '/' :: place := by
  intro hp
  rcases List.mem_append.mp (show sign ∈ ['/', '/'] ++ place from hp) with hp | hp
  · exact hs hp
  · exact (not_blank_of_isPlaceChar (h sign hp)).2 hm

/-- A plain origin with a host ends in no slash. -/
theorem bare_of_isPlainOrigin {domain : String} {scheme : List Char}
    (hs : splitScheme? domain.toList = some (scheme, '/' :: '/' :: place))
    (hc : ∀ c ∈ place, isPlaceChar c = true) (hn : place ≠ []) : Domain.bare domain = domain := by
  obtain ⟨name, ht, -, -, -⟩ := splitScheme?_eq_some_iff.mp hs
  obtain ⟨front, last, rfl⟩ := exists_concat hn
  have hl : (last == '/') = false := by
    have hm := (not_blank_of_isPlaceChar (hc last List.mem_concat_self)).2
    refine beq_false_of_ne ?_
    rintro rfl
    exact hm (by decide)
  have hd : domain.toList = name ++ ':' :: '/' :: '/' :: front ++ [last] := by
    rw [ht, List.append_assoc]
    rfl
  have hdrop := dropEndWhile_concat (p := (· == '/')) hl (name ++ ':' :: '/' :: '/' :: front)
  rw [Domain.bare, hd, hdrop, ← hd, String.ofList_toList]

/-- An endpoint that is a plain origin goes on with any path: it is read with its own scheme and
    authority and with the path, the query and the fragment of what is appended. -/
theorem parse_append_of_isPlainOrigin {domain text : String} {base : Url} {tail : List Char}
    (hp : isPlainOrigin domain = true) (hd : Domain.parse domain = .ok base)
    (ht : text.toList = (Domain.bare domain).toList ++ '/' :: tail)
    (he : endsInInk ('/' :: tail) = true) :
    parse text = .ok { base with
      path := .ofSegments (segmentsOf true (cut '?' (cut '#' (unbroken tail)).1).1)
      query := (cut '?' (cut '#' (unbroken tail)).1).2.map (Percent.encode Percent.specialQuery)
      fragment := (cut '#' (unbroken tail)).2.map (Percent.encode Percent.fragment) } := by
  have hb := not_blank_of_isPlainOrigin hp
  obtain ⟨scheme, place, hs, hc⟩ := isPlainOrigin_iff.mp hp
  obtain ⟨-, hu, host, -, ho⟩ := Domain.parse_eq_ok_iff.mp hd
  obtain ⟨hT, -, hq, hf, -⟩ := Domain.originFault?_eq_none_iff.mp ho
  have hk := Domain.kind_of_isTrusted hT
  obtain ⟨rest, hr, -, -, authority, ha, hbase, -⟩ := exists_rest_of_parse hu hk hq hf
  rw [clean_of_forall hb, hs] at hr
  obtain ⟨rfl, rfl⟩ := Prod.mk.inj (Option.some.inj hr)
  rw [placeOf_slashes hc] at ha
  have hn : place ≠ [] := by
    rintro rfl
    cases ha
  have hbare := bare_of_isPlainOrigin hs hc hn
  have hi : ∃ c ∈ domain.toList, isOuterBlank c = false := by
    obtain ⟨name, he, -⟩ := splitScheme?_eq_some_iff.mp hs
    exact ⟨':', he ▸ List.mem_append_right name List.mem_cons_self, by decide⟩
  have hstem : splitScheme? (unbroken (domain.toList.dropWhile isOuterBlank)) =
      some (base.scheme, '/' :: '/' :: place) := by
    rwa [dropWhile_of_forall hb,
      unbroken_of_forall fun c hc => isLineBlank_of_not_isOuterBlank (hb c hc)]
  have hfirst : unbroken ('/' :: tail) = ['/'] ++ unbroken tail := rfl
  rw [hbare] at ht
  have hf := not_mem_slashes hc (by decide : '#' ∉ ['/', '/']) (by decide)
  have hq := not_mem_slashes hc (by decide : '?' ∉ ['/', '/']) (by decide)
  rw [parse_of_stem ht hi he hstem hk hf hq, hfirst]
  simp only [cut_append (show '#' ∉ ['/'] by decide), cut_append (show '?' ∉ ['/'] by decide)]
  rw [List.singleton_append, readNetwork_slashes hc hn, ha, hbase]
  rfl

end CallTransfer.Url
