import CallTransfer.Check
import CallTransfer.Url.Parser
import Mathlib.Data.List.TakeWhile

/-!
    How a URL of the network is read when its text goes on. The text is cut at its first colon, then
    at `#`, then at `?`, and the PLACE is what stands between the first slashes of the rest and the
    next one: it alone decides the authority. So what is appended behind the place changes the path,
    the query and the fragment, and never the scheme or the authority.
-/

namespace CallTransfer.Url

/-- What is not nothing has a last element. -/
theorem exists_concat {s : List α} (h : s ≠ []) : ∃ front last, s = front ++ [last] := by
  obtain ⟨front, last, rfl⟩ := (List.eq_nil_or_concat s).resolve_left h
  exact ⟨front, last, List.concat_eq_append⟩

/-! ### What counts of a text -/

/-- A text without tabs and line ends. -/
def unbroken (s : List Char) : List Char := s.filter (!isLineBlank ·)

theorem unbroken_append (s t : List Char) : unbroken (s ++ t) = unbroken s ++ unbroken t :=
  List.filter_append s t

theorem unbroken_flatMap (ss : List (List Char)) :
    unbroken (ss.flatMap ('/' :: ·)) = (ss.map unbroken).flatMap ('/' :: ·) := by
  induction ss with
  | nil => rfl
  | cons s ss ih =>
    rw [List.flatMap_cons, unbroken_append, ih, List.map_cons, List.flatMap_cons]
    rfl

theorem unbroken_of_forall {s : List Char} (h : ∀ c ∈ s, isLineBlank c = false) : unbroken s = s :=
  List.filter_eq_self.mpr fun c hc => by rw [h c hc]; rfl

/-- A character that is no tab and no line end counts wherever it stands. -/
theorem mem_unbroken_iff {s : List Char} {c : Char} (hc : isLineBlank c = false) :
    c ∈ unbroken s ↔ c ∈ s := by
  rw [unbroken, List.mem_filter, hc]
  exact and_iff_left rfl

theorem mem_of_mem_unbroken {s : List Char} {c : Char} (h : c ∈ unbroken s) : c ∈ s :=
  (List.mem_filter.mp h).1

theorem mem_of_mem_clean {s : List Char} {c : Char} (h : c ∈ clean s) : c ∈ s := by
  have h := (List.dropWhile_sublist _).mem (List.mem_reverse.mp (mem_of_mem_unbroken h))
  exact (List.dropWhile_sublist _).mem (List.mem_reverse.mp h)

/-- A blank separates nothing. -/
theorem isSlash_of_isOuterBlank {c : Char} (h : isOuterBlank c = true) :
    isSlash true c = false := by
  have hn : c ≠ '/' ∧ c ≠ '\\' := by
    constructor <;> (rintro rfl; revert h; decide)
  simp [isSlash, hn]

/-- Where something is not dropped, what follows the text is not either. -/
theorem dropWhile_append_of_exists {p : α → Bool} {s : List α} (h : ∃ a ∈ s, p a = false)
    (t : List α) : (s ++ t).dropWhile p = s.dropWhile p ++ t := by
  have hn : s.dropWhile p ≠ [] := by
    obtain ⟨a, ha, hp⟩ := h
    intro hd
    rw [List.dropWhile_eq_nil_iff.mp hd a ha] at hp
    cases hp
  rw [List.dropWhile_append, if_neg (by simpa using hn)]

theorem dropEndWhile_concat {p : α → Bool} {a : α} (h : p a = false) (s : List α) :
    Text.dropEndWhile p (s ++ [a]) = s ++ [a] := by
  simp [Text.dropEndWhile, h]

theorem dropEndWhile_append_takeEnd (p : α → Bool) (s : List α) :
    ∃ t, s = Text.dropEndWhile p s ++ t ∧ ∀ a ∈ t, p a = true := by
  refine ⟨(s.reverse.takeWhile p).reverse, ?_, ?_⟩
  · rw [Text.dropEndWhile, ← List.reverse_append, List.takeWhile_append_dropWhile,
      List.reverse_reverse]
  · intro a ha
    exact List.all_eq_true.mp List.all_takeWhile a (List.mem_reverse.mp ha)

/-- Whether a text ends with a character that counts. -/
def endsInInk (s : List Char) : Bool := s.getLast?.any (!isOuterBlank ·)

theorem endsInInk_iff {s : List Char} :
    endsInInk s = true ↔ ∃ front last, s = front ++ [last] ∧ isOuterBlank last = false := by
  unfold endsInInk
  cases hl : s.getLast? with
  | none =>
    rw [List.getLast?_eq_none_iff.mp hl]
    exact ⟨nofun, fun ⟨front, last, h, _⟩ => absurd h.symm (List.concat_ne_nil last front)⟩
  | some last =>
    obtain ⟨front, rfl⟩ := List.getLast?_eq_some_iff.mp hl
    constructor
    · exact fun h => ⟨front, last, rfl, by simpa using h⟩
    · rintro ⟨front', last', he, h⟩
      rw [(List.append_inj' he rfl).2 |> List.singleton_inj.mp]
      simpa using h

theorem endsInInk_append (s : List Char) {t : List Char} (h : endsInInk t = true) :
    endsInInk (s ++ t) = true := by
  obtain ⟨front, last, rfl, hb⟩ := endsInInk_iff.mp h
  exact endsInInk_iff.mpr ⟨s ++ front, last, (List.append_assoc ..).symm, hb⟩

/-- Of a text that goes on up to a character that counts, only the blanks in front and all tabs and
    line ends are left out. -/
theorem clean_append {s t : List Char} (hs : ∃ c ∈ s, isOuterBlank c = false)
    (ht : endsInInk t = true) :
    clean (s ++ t) = unbroken (s.dropWhile isOuterBlank) ++ unbroken t := by
  obtain ⟨front, last, rfl, ho⟩ := endsInInk_iff.mp ht
  rw [clean, Text.trimBy, dropWhile_append_of_exists hs, ← List.append_assoc,
    dropEndWhile_concat ho, List.append_assoc]
  exact List.filter_append _ _

/-! ### The cuts -/

/-- The scheme ends at the first colon, and all before that are its characters. -/
theorem splitScheme?_eq_some_iff {s scheme rest : List Char} :
    splitScheme? s = some (scheme, rest) ↔
      ∃ name, s = name ++ ':' :: rest ∧ (∀ c ∈ name, isSchemeChar c = true) ∧
        name.head?.any Char.isAlpha = true ∧ name.map Char.toLower = scheme := by
  unfold splitScheme?
  simp only
  constructor
  · intro h
    split at h
    · rename_i behind hd
      split at h
      · rename_i ha
        cases h
        refine ⟨s.takeWhile isSchemeChar, ?_, ?_, ha, rfl⟩
        · rw [← hd, List.takeWhile_append_dropWhile]
        · exact fun c hc => List.all_eq_true.mp List.all_takeWhile c hc
      · cases h
    · cases h
  · rintro ⟨name, rfl, hn, ha, rfl⟩
    have ht : (name ++ ':' :: rest).takeWhile isSchemeChar = name := by
      rw [List.takeWhile_append_of_pos hn]
      exact List.append_nil name
    have hd : (name ++ ':' :: rest).dropWhile isSchemeChar = ':' :: rest := by
      rw [List.dropWhile_append_of_pos hn]
      rfl
    simp only [ht, hd, if_pos ha]

/-- The scheme stays when the rest goes on. -/
theorem splitScheme?_append {s scheme rest : List Char}
    (h : splitScheme? s = some (scheme, rest)) (t : List Char) :
    splitScheme? (s ++ t) = some (scheme, rest ++ t) := by
  obtain ⟨name, rfl, hn, ha, hs⟩ := splitScheme?_eq_some_iff.mp h
  exact splitScheme?_eq_some_iff.mpr ⟨name, by rw [List.append_assoc, List.cons_append], hn, ha, hs⟩

/-- A text is cut behind all that stands before the sign. -/
theorem cut_append {sign : Char} {s : List Char} (h : sign ∉ s) (t : List Char) :
    cut sign (s ++ t) = (s ++ (cut sign t).1, (cut sign t).2) := by
  have hp : ∀ c ∈ s, (c != sign) = true := fun c hc => bne_iff_ne.mpr fun e => h (e ▸ hc)
  unfold cut
  rw [List.dropWhile_append_of_pos hp]
  split
  · rfl
  · rw [List.takeWhile_append_of_pos hp]

theorem cut_of_not_mem {sign : Char} {s : List Char} (h : sign ∉ s) : cut sign s = (s, none) := by
  have hc := cut_append h []
  rw [List.append_nil] at hc
  rw [hc]
  exact congrArg (·, none) (List.append_nil s)

/-- Only a text without the sign is not cut. -/
theorem cut_snd_eq_none_iff {sign : Char} {s : List Char} : (cut sign s).2 = none ↔ sign ∉ s := by
  constructor
  · intro h hm
    unfold cut at h
    split at h
    · rename_i hd
      have hs := List.dropWhile_eq_nil_iff.mp hd sign hm
      exact bne_iff_ne.mp hs rfl
    · cases h
  · intro h
    rw [cut_of_not_mem h]

/-! ### The place -/

/-- What stands between the first slashes of a text and the next one. -/
def placeOf (s : List Char) : List Char :=
  (s.dropWhile (isSlash true)).takeWhile (!isSlash true ·)

/-- What stands behind the place and the slash that ends it. -/
def behindPlace (s : List Char) : List Char :=
  ((s.dropWhile (isSlash true)).dropWhile (!isSlash true ·)).drop 1

/-- The place decides the authority, and what is behind it the path. -/
theorem readNetwork_eq (default : Option Nat) (s : List Char) :
    readNetwork default s = (readAuthority default (placeOf s)).map fun authority =>
      (some authority, .ofSegments (segmentsOf true (behindPlace s))) := by
  unfold readNetwork placeOf behindPlace
  simp only
  cases readAuthority default ((s.dropWhile (isSlash true)).takeWhile (!isSlash true ·)) with
  | error fault => rfl
  | ok authority => rfl

/-- The place is empty in a text of slashes only. -/
theorem dropWhile_ne_nil_of_placeOf {s : List Char} (h : placeOf s ≠ []) :
    s.dropWhile (isSlash true) ≠ [] := by
  intro hd
  rw [placeOf, hd] at h
  exact h rfl

/-- What follows a slash behind the place is not part of the place. -/
theorem placeOf_append_slash {s : List Char} {c : Char} (hs : s.dropWhile (isSlash true) ≠ [])
    (hc : isSlash true c = true) (t : List Char) : placeOf (s ++ c :: t) = placeOf s := by
  rw [placeOf, placeOf, List.dropWhile_append, if_neg (by simpa using hs), List.takeWhile_append]
  split
  · rename_i hl
    have hn : (!isSlash true c) = false := by rw [hc]; rfl
    rw [List.takeWhile_cons, hn, (List.takeWhile_prefix _).eq_of_length hl]
    exact List.append_nil _
  · rfl

/-- What goes on without slashes is either behind a slash already or part of the place. -/
theorem placeOf_append_of_forall {s t : List Char} (hs : s.dropWhile (isSlash true) ≠ [])
    (ht : ∀ c ∈ t, isSlash true c = false) :
    placeOf (s ++ t) = placeOf s ∨ placeOf (s ++ t) = placeOf s ++ t := by
  rw [placeOf, placeOf, List.dropWhile_append, if_neg (by simpa using hs), List.takeWhile_append]
  split
  · rename_i hl
    have hn : t.takeWhile (!isSlash true ·) = t :=
      List.takeWhile_eq_self_iff.mpr fun c hc => by rw [ht c hc]; rfl
    rw [hn, (List.takeWhile_prefix _).eq_of_length hl]
    exact Or.inr rfl
  · exact Or.inl rfl

/-! ### The whole text -/

/-- A URL of the network: its scheme, its place and what is behind that are all that is read of it,
    but for query and fragment. -/
theorem parse_of_network {text : String} {scheme rest : List Char}
    (hs : splitScheme? (clean text.toList) = some (scheme, rest))
    (hk : Kind.ofScheme scheme = .network) :
    parse text =
      (readNetwork (defaultPort? scheme) (cut '?' (cut '#' rest).1).1).map fun place =>
        { scheme, authority := place.1, path := place.2
          query := (cut '?' (cut '#' rest).1).2.map (Percent.encode Percent.specialQuery)
          fragment := (cut '#' rest).2.map (Percent.encode Percent.fragment) } := by
  unfold parse
  simp only [hs, hk]
  cases readNetwork (defaultPort? scheme) (cut '?' (cut '#' rest).1).1 with
  | error fault => rfl
  | ok place => rfl

/-- A URL of the network that goes on: what is appended is cut at `#` and `?` on its own, and what
    is left of it follows the STEM, which stands behind the scheme. -/
theorem parse_of_stem {text : String} {s tail scheme stem : List Char}
    (ht : text.toList = s ++ tail) (hi : ∃ c ∈ s, isOuterBlank c = false)
    (he : endsInInk tail = true)
    (hs : splitScheme? (unbroken (s.dropWhile isOuterBlank)) = some (scheme, stem))
    (hk : Kind.ofScheme scheme = .network) (hf : '#' ∉ stem) (hq : '?' ∉ stem) :
    parse text =
      (readNetwork (defaultPort? scheme)
        (stem ++ (cut '?' (cut '#' (unbroken tail)).1).1)).map fun place =>
        { scheme, authority := place.1, path := place.2
          query := (cut '?' (cut '#' (unbroken tail)).1).2.map
            (Percent.encode Percent.specialQuery)
          fragment := (cut '#' (unbroken tail)).2.map (Percent.encode Percent.fragment) } := by
  have hc : splitScheme? (clean text.toList) = some (scheme, stem ++ unbroken tail) := by
    rw [ht, clean_append hi he]
    exact splitScheme?_append hs _
  rw [parse_of_network hc hk, cut_append hf]
  simp only [cut_append hq]

/-- A text that is a URL starts with its scheme. -/
theorem exists_splitScheme?_of_parse {text : String} {url : Url} (h : parse text = .ok url) :
    ∃ rest, splitScheme? (clean text.toList) = some (url.scheme, rest) := by
  unfold parse at h
  split at h
  · cases h
  · rename_i scheme rest hs
    refine ⟨rest, hs.trans ?_⟩
    simp only at h
    split at h
    all_goals
      obtain ⟨place, -, ⟨⟩⟩ := Check.bind_eq_ok_iff.mp h
      rfl

end CallTransfer.Url
