import CallTransfer.Proofs.Url.Path
import CallTransfer.Proofs.Url.PlainOrigin

/-!
    Endpoints as a base of paths. An endpoint is checked as a URL, which may have dot segments, and
    blanks at its end, that come to nothing; the path is appended to its TEXT. The dot segments come
    to nothing there, too, but a blank and a slash do not: the former gets into the place or into a
    segment, and the latter ends an empty segment. So the last character that counts decides.
-/

namespace CallTransfer.Url

/-- Only nothing is encoded as nothing. -/
theorem Percent.encode_eq_nil_iff {set : Char → Bool} {s : List Char} :
    encode set s = [] ↔ s = [] := by
  have hc : ∀ c, encodeChar c ≠ [] := by
    intro c h
    have hb := List.flatMap_eq_nil_iff.mp h
    have hlen := String.length_utf8EncodeChar c
    have hpos := Char.utf8Size_pos c
    cases hu : String.utf8EncodeChar c with
    | nil =>
      rw [hu, List.length_nil] at hlen
      omega
    | cons b bs => exact absurd (hb b (hu ▸ List.mem_cons_self)) (List.cons_ne_nil _ _)
  constructor
  · intro h
    have hall := List.flatMap_eq_nil_iff.mp h
    refine List.eq_nil_iff_forall_not_mem.mpr fun c hm => ?_
    have hn := hall c hm
    split at hn
    · exact hc c hn
    · cases hn
  · rintro rfl
    rfl

namespace Path

/-! ### Segments in front of more segments -/

/-- What is left, behind `done`, of segments that more segments follow; last first, as `done`. -/
def left (done : List (List Char)) : List (List Char) → List (List Char)
  | [] => done
  | s :: ss =>
    if isDoubleDot s then left done.tail ss
    else if isSingleDot s then left done ss
    else left (s :: done) ss

/-- The segments that follow are resolved behind what is left of those in front. -/
theorem resolveAfter_append {ts : List (List Char)} (h : ts ≠ []) (done ss : List (List Char)) :
    resolveAfter done (ss ++ ts) = resolveAfter (left done ss) ts := by
  induction ss generalizing done with
  | nil => rfl
  | cons s ss ih =>
    rw [List.cons_append, resolveAfter_cons s (by simp [h]), left, ih, ih, ih]
    split
    · rfl
    · split <;> rfl

theorem left_append (done ss ts : List (List Char)) :
    left done (ss ++ ts) = left (left done ss) ts := by
  induction ss generalizing done with
  | nil => rfl
  | cons s ss ih =>
    rw [List.cons_append, left, left, ih, ih, ih]
    split
    · rfl
    · split <;> rfl

/-- A segment that is no dot segment is left of all that are in front of more. -/
theorem left_concat_of_isDot {last : List Char} (h : isDot last = false)
    (ss : List (List Char)) : left [] (ss ++ [last]) ≠ [] := by
  obtain ⟨h1, h2⟩ := Bool.or_eq_false_iff.mp h
  rw [left_append, left, h2, if_neg (by decide), h1, if_neg (by decide)]
  exact List.cons_ne_nil _ _

/-- Of segments that resolve to nothing but an empty one, nothing is left in front of more, if the
    last of them is not empty itself. -/
theorem left_eq_nil_of_resolve {last : List Char} (hn : last ≠ []) {ss : List (List Char)}
    (h : resolve (ss ++ [last]) = [[]]) : left [] (ss ++ [last]) = [] := by
  rw [resolve, resolveAfter_append (List.cons_ne_nil _ _)] at h
  rw [left_append]
  unfold resolveAfter at h
  unfold left
  split
  · rename_i h2
    rw [if_pos h2, List.reverse_cons] at h
    exact List.reverse_eq_nil_iff.mp (List.append_left_eq_self.mp h)
  · rename_i h2
    rw [if_neg h2] at h
    split
    · rename_i h1
      rw [if_pos h1, List.reverse_cons] at h
      exact List.reverse_eq_nil_iff.mp (List.append_left_eq_self.mp h)
    · rename_i h1
      rw [if_neg h1, List.reverse_cons] at h
      have hlast := congrArg List.getLast? h
      rw [List.getLast?_concat] at hlast
      exact absurd (Option.some.inj hlast) hn

/-- Something is left of every path. -/
theorem resolve_concat_ne_nil (ss : List (List Char)) (last : List Char) :
    resolve (ss ++ [last]) ≠ [] := by
  rw [resolve, resolveAfter_append (List.cons_ne_nil _ _)]
  unfold resolveAfter
  split
  · simp
  · split <;> simp

/-- Segments without dot segments are kept as they are exactly where nothing is left in front. -/
theorem render_ofSegments_append {ts : List (List Char)} (hn : ts ≠ [])
    (hd : ∀ s ∈ ts, isDot s = false) (he : ∀ s ∈ ts, Percent.encode Percent.path s = s)
    (ss : List (List Char)) :
    (ofSegments (ss ++ ts)).render = ts.flatMap ('/' :: ·) ↔ left [] ss = [] := by
  have hts : ts.map (Percent.encode Percent.path) = ts :=
    (List.map_congr_left he).trans (List.map_id ts)
  rw [ofSegments, resolve, resolveAfter_append hn, resolveAfter_of_forall _ hd, List.map_append,
    hts, render, List.flatMap_append]
  constructor
  · intro h
    have hnil := List.append_left_eq_self.mp h
    cases hl : (left [] ss).reverse with
    | nil => exact List.reverse_eq_nil_iff.mp hl
    | cons s more =>
      rw [hl] at hnil
      cases hnil
  · intro h
    rw [h]
    rfl

end Path

/-! ### Between the place and what is appended -/

/-- The segments behind the place of a text that goes on behind a slash. -/
def innerSegments (s : List Char) : List (List Char) :=
  match (s.dropWhile (isSlash true)).dropWhile (!isSlash true ·) with
  | [] => []
  | _ :: behind => segmentsOf true behind

/-- Where a text goes on behind a slash, its inner segments are in front of those that follow. -/
theorem innerSegments_append {s : List Char} {slash : Char} (hs : s.dropWhile (isSlash true) ≠ [])
    (hc : isSlash true slash = true) (t : List Char) :
    innerSegments (s ++ slash :: t) = innerSegments s ++ segmentsOf true t := by
  have hn : (!isSlash true slash) = false := by rw [hc]; rfl
  unfold innerSegments
  rw [List.dropWhile_append, if_neg (by simpa using hs), List.dropWhile_append]
  cases (s.dropWhile (isSlash true)).dropWhile (!isSlash true ·) with
  | nil =>
    rw [List.isEmpty_nil, if_pos rfl, List.dropWhile_cons, hn]
    rfl
  | cons first behind =>
    rw [List.isEmpty_cons, if_neg (by decide)]
    exact segmentsOf_append_cons hc behind t

/-- The path of a text is made of its inner segments, or of an empty one. -/
theorem segmentsOf_behindPlace (s : List Char) :
    (innerSegments s = [] ∧ segmentsOf true (behindPlace s) = [[]]) ∨
      segmentsOf true (behindPlace s) = innerSegments s := by
  unfold behindPlace innerSegments
  cases (s.dropWhile (isSlash true)).dropWhile (!isSlash true ·) with
  | nil => exact Or.inl ⟨rfl, rfl⟩
  | cons first behind => exact Or.inr rfl

theorem segmentsOf_behindPlace_append {s : List Char} {slash : Char}
    (hs : s.dropWhile (isSlash true) ≠ []) (hc : isSlash true slash = true) (t : List Char) :
    segmentsOf true (behindPlace (s ++ slash :: t)) = innerSegments s ++ segmentsOf true t := by
  have hi := innerSegments_append hs hc t
  rcases segmentsOf_behindPlace (s ++ slash :: t) with ⟨hn, -⟩ | hb
  · rw [hi] at hn
    exact absurd (List.append_eq_nil_iff.mp hn).2 (segmentsOf_ne_nil t)
  · rw [hb, hi]

/-- A last character that is kept is kept behind all others that are. -/
theorem dropWhile_concat {p : α → Bool} {a : α} (h : p a = false) (s : List α) :
    (s ++ [a]).dropWhile p = s.dropWhile p ++ [a] := by
  induction s with
  | nil => exact List.dropWhile_cons_of_neg (by simp [h])
  | cons b s ih =>
    rw [List.cons_append, List.dropWhile_cons, List.dropWhile_cons, ih]
    split <;> rfl

/-- A last character that is no slash belongs to the place or to the last of the inner segments. -/
theorem last_of_not_slash {c : Char} (hc : isSlash true c = false) (s : List Char) :
    (innerSegments (s ++ [c]) = [] ∧ ∃ front, placeOf (s ++ [c]) = front ++ [c]) ∨
      ∃ ss last, innerSegments (s ++ [c]) = ss ++ [last ++ [c]] := by
  have hn : (!isSlash true c) = true := by rw [hc]; rfl
  unfold innerSegments placeOf
  rw [dropWhile_concat hc]
  generalize s.dropWhile (isSlash true) = behindSlashes
  rw [List.dropWhile_append]
  cases hd : behindSlashes.dropWhile (!isSlash true ·) with
  | nil =>
    have hall : ∀ d ∈ behindSlashes, (!isSlash true d) = true := List.dropWhile_eq_nil_iff.mp hd
    refine Or.inl ⟨?_, behindSlashes, ?_⟩
    · rw [List.isEmpty_nil, if_pos rfl, List.dropWhile_cons, hn]
      rfl
    · rw [List.takeWhile_append_of_pos hall, List.takeWhile_cons, hn]
      rfl
  | cons first behind =>
    have hlast : ∀ d ∈ [c], isSlash true d = false :=
      fun d hd => by rwa [List.mem_singleton.mp hd]
    exact Or.inr (exists_segmentsOf_append behind hlast)

/-- Slashes only end empty segments. -/
theorem segmentsOf_slashes {s : List Char} (h : ∀ c ∈ s, isSlash true c = true) :
    segmentsOf true s = List.replicate (s.length + 1) [] := by
  induction s with
  | nil => rfl
  | cons c s ih =>
    rw [segmentsOf, if_pos (h c List.mem_cons_self), ih fun d hd => h d (List.mem_cons_of_mem c hd)]
    rfl

/-! ### What a text ends in -/

/-- Whether a text ends in a segment or in a place: with neither a blank nor a slash. -/
def endsInSegment (s : List Char) : Bool :=
  s.getLast?.any fun c => !isOuterBlank c && !isSlash true c

theorem endsInSegment_concat (s : List Char) (c : Char) :
    endsInSegment (s ++ [c]) = (!isOuterBlank c && !isSlash true c) := by
  rw [endsInSegment, List.getLast?_concat]
  rfl

/-- What a text ends in is decided by what is appended to it. -/
theorem endsInSegment_append (s : List Char) {t : List Char} (h : t ≠ []) :
    endsInSegment (s ++ t) = endsInSegment t := by
  obtain ⟨front, c, rfl⟩ := exists_concat h
  rw [← List.append_assoc, endsInSegment_concat, endsInSegment_concat]

/-- Blanks end no segment. -/
theorem endsInSegment_of_blank {s : List Char} (h : ∀ c ∈ s, isOuterBlank c = true) :
    endsInSegment s = false := by
  by_cases hn : s = []
  · rw [hn]
    rfl
  · obtain ⟨front, c, rfl⟩ := exists_concat hn
    rw [endsInSegment_concat, h c List.mem_concat_self]
    rfl

/-- Whether a text is a base: it has an authority, and nothing is left of its inner segments in
    front of more. -/
def IsBase (default : Option Nat) (s : List Char) : Prop :=
  (∃ authority, readAuthority default (placeOf s) = .ok authority) ∧
    Path.left [] (innerSegments s) = []

/-- A base ends in a segment: a blank at its end would be in the place or in a segment that is left,
    and a slash would leave an empty segment. -/
theorem IsBase.endsInSegment {default : Option Nat} {s : List Char} (h : IsBase default s) :
    endsInSegment s = true := by
  obtain ⟨⟨authority, ha⟩, hl⟩ := h
  have hp : placeOf s ≠ [] := by
    intro hp
    rw [hp] at ha
    cases ha
  have hd := dropWhile_ne_nil_of_placeOf hp
  obtain ⟨front, c, rfl⟩ := exists_concat (s := s) (by rintro rfl; exact hd rfl)
  rw [endsInSegment_concat, Bool.and_eq_true, Bool.not_eq_true', Bool.not_eq_true']
  have hslash : isSlash true c = false := by
    refine Bool.eq_false_iff.mpr fun hc => ?_
    have hfront : front.dropWhile (isSlash true) ≠ [] := by
      intro hf
      rw [List.dropWhile_append, hf, List.isEmpty_nil, if_pos rfl, List.dropWhile_cons, hc] at hd
      exact hd rfl
    rw [innerSegments_append hfront hc] at hl
    exact Path.left_concat_of_isDot (by decide) _ hl
  refine ⟨?_, hslash⟩
  refine Bool.eq_false_iff.mpr fun hb => ?_
  rcases last_of_not_slash hslash front with ⟨-, place, hplace⟩ | ⟨ss, last, hss⟩
  · rw [hplace] at ha
    exact readAuthority_concat (of_decide_eq_true hb) default place authority ha
  · rw [hss] at hl
    refine Path.left_concat_of_isDot (Path.isDot_of_mem List.mem_concat_self ?_) ss hl
    -- a blank is in no spelling of a dot
    have hall : ∀ n < 33, (Char.ofNat n).toLower ∉ ".%2e".toList := by decide
    have hn := hall c.toNat (Nat.lt_succ_of_le (of_decide_eq_true hb))
    rwa [Char.ofNat_toNat] at hn

/-- What resolves to nothing but an empty segment, and ends in a segment, is a base. -/
theorem left_innerSegments_of_resolve {s : List Char} (he : endsInSegment s = true)
    (hr : Path.resolve (segmentsOf true (behindPlace s)) = [[]]) :
    Path.left [] (innerSegments s) = [] := by
  rcases segmentsOf_behindPlace s with ⟨hi, -⟩ | hi
  · rw [hi]
    rfl
  · obtain ⟨front, c, rfl⟩ := exists_concat (s := s) (by rintro rfl; cases he)
    rw [endsInSegment_concat, Bool.and_eq_true, Bool.not_eq_true', Bool.not_eq_true'] at he
    rcases last_of_not_slash he.2 front with ⟨hnil, -⟩ | ⟨ss, last, hss⟩
    · rw [hnil]
      rfl
    · rw [hi, hss] at hr
      rw [hss]
      exact Path.left_eq_nil_of_resolve (by simp) hr

end CallTransfer.Url

namespace CallTransfer.Domain

open Url

namespace IsCut

variable {domain : String} {base : Url} {stem slashes rest blanks : List Char}

/-- The path of an endpoint comes to nothing but an empty segment. -/
theorem resolve_rest (h : IsCut domain base stem slashes rest blanks) :
    Path.resolve (segmentsOf true (behindPlace rest)) = [[]] := by
  obtain ⟨ss, last, hs⟩ := exists_concat (segmentsOf_ne_nil (behindPlace rest))
  have hn : Path.resolve (segmentsOf true (behindPlace rest)) ≠ [] := by
    rw [hs]
    exact Path.resolve_concat_ne_nil ss last
  have hp := h.noPath
  rw [pathText, h.path, Path.ofSegments, Path.render] at hp
  revert hn hp
  generalize Path.resolve (segmentsOf true (behindPlace rest)) = segments
  intro hn hp
  cases segments with
  | nil => exact absurd rfl hn
  | cons s more =>
    simp only [List.map_cons, List.flatMap_cons, List.cons_append, List.cons.injEq, true_and,
      List.append_eq_nil_iff, Percent.encode_eq_nil_iff] at hp
    obtain ⟨rfl, hmore⟩ := hp.resolve_left (List.cons_ne_nil _ _)
    cases more with
    | nil => rfl
    | cons t more => cases hmore

/-- Slashes and blanks are not left out of the same endpoint. -/
theorem slashes_or_blanks (h : IsCut domain base stem slashes rest blanks) :
    slashes = [] ∨ blanks = [] := by
  refine Decidable.or_iff_not_imp_left.mpr fun hs => Decidable.not_not.mp fun hb => ?_
  obtain ⟨front, slash, rfl⟩ := exists_concat hs
  obtain ⟨before, c, rfl⟩ := exists_concat hb
  have hlast := congrArg List.getLast? h.same
  rw [← List.append_assoc, ← List.append_assoc, List.getLast?_concat, List.getLast?_concat] at hlast
  have hblank := h.blank c List.mem_concat_self
  rw [← Option.some.inj hlast, h.slash slash List.mem_concat_self] at hblank
  cases hblank

/-- An endpoint goes on as a base exactly when it ends in a segment. -/
theorem isBase_iff (h : IsCut domain base stem slashes rest blanks) :
    IsBase (defaultPort? base.scheme) stem ↔ endsInSegment stem = true := by
  refine ⟨IsBase.endsInSegment, fun he => ?_⟩
  obtain ⟨authority, ha, -⟩ := h.authority
  have hr := h.resolve_rest
  have hb : blanks = [] := by
    refine h.slashes_or_blanks.elim (fun hs => Decidable.not_not.mp fun hn => ?_) id
    have hsame := h.same
    rw [hs, List.append_nil] at hsame
    rw [hsame, endsInSegment_append rest hn, endsInSegment_of_blank h.blank] at he
    cases he
  have hsame := h.same
  rw [hb, List.append_nil] at hsame
  subst hsame
  cases slashes with
  | nil =>
    rw [List.append_nil] at ha hr
    exact ⟨⟨authority, ha⟩, left_innerSegments_of_resolve he hr⟩
  | cons slash more =>
    have hslash : ∀ c ∈ slash :: more, isSlash true c = true := fun c hc => by
      rw [h.slash c hc]
      rfl
    have hd := h.placeOf_stem.1
    have hfirst := hslash slash List.mem_cons_self
    rw [placeOf_append_slash hd hfirst] at ha
    have hempty := segmentsOf_slashes fun c hc => hslash c (List.mem_cons_of_mem slash hc)
    have hdots : ∀ s ∈ segmentsOf true more, Path.isDot s = false := by
      rw [hempty]
      intro s hs
      rw [List.eq_of_mem_replicate hs]
      decide
    refine ⟨⟨authority, ha⟩, ?_⟩
    -- the slashes end empty segments, and one of them is all that comes of the path
    rw [segmentsOf_behindPlace_append hd hfirst, Path.resolve,
      Path.resolveAfter_append (segmentsOf_ne_nil more), Path.resolveAfter_of_forall _ hdots,
      hempty] at hr
    have hlen := congrArg List.length hr
    rw [List.length_append, List.length_reverse, List.length_replicate,
      List.length_singleton] at hlen
    exact List.length_eq_zero_iff.mp (by omega)

/-- What an endpoint ends in is what its stem ends in. -/
theorem endsInSegment_bare (h : IsCut domain base stem slashes rest blanks) :
    endsInSegment (unbroken (bare domain).toList) = endsInSegment stem := by
  obtain ⟨name, hn, -⟩ := splitScheme?_eq_some_iff.mp h.scheme
  have hne : stem ≠ [] := by
    rintro rfl
    exact h.placeOf_stem.1 rfl
  have hsplit : unbroken (bare domain).toList =
      unbroken ((bare domain).toList.takeWhile isOuterBlank) ++ (name ++ [':']) ++ stem := by
    rw [List.append_assoc, List.append_assoc, List.singleton_append, ← hn, ← unbroken_append,
      List.takeWhile_append_dropWhile]
  rw [hsplit, endsInSegment_append _ hne]

end IsCut

end CallTransfer.Domain

namespace CallTransfer.Url

/-! ### Plain segments -/

/-- A letter, a digit or one of three signs that mean nothing in a path. -/
def isPlainChar (c : Char) : Bool := c.isAlphanum || "-_:".toList.contains c

/-- A plain character stands for itself: it is no blank, separates nothing, is not encoded and is in
    no spelling of a dot. -/
theorem plain_of_isPlainChar {c : Char} (h : isPlainChar c = true) :
    isOuterBlank c = false ∧ isSlash true c = false ∧ c ∉ ['#', '?'] ∧
      Percent.path c = false ∧ c.toLower ∉ ['.', '%'] := by
  have hascii : c.toNat < 128 := by
    refine Nat.lt_of_not_le fun hl => ?_
    have hsigns : ∀ d ∈ "-_:".toList, d.toNat < 128 := Text.forall_of_all (by decide)
    rcases Bool.or_eq_true_iff.mp h with ha | hs
    · unfold Char.isAlphanum Char.isAlpha Char.isUpper Char.isLower Char.isDigit at ha
      simp only [Bool.or_eq_true, Bool.and_eq_true, decide_eq_true_eq,
        UInt32.le_iff_toNat_le] at ha
      have hends : 'Z'.val.toNat = 90 ∧ 'z'.val.toNat = 122 ∧ '9'.val.toNat = 57 := ⟨rfl, rfl, rfl⟩
      have hv : c.toNat = c.val.toNat := rfl
      omega
    · exact absurd (hsigns c (List.contains_iff_mem.mp hs)) (Nat.not_lt.mpr hl)
  have hall : ∀ n < 128, isPlainChar (Char.ofNat n) = true →
      isOuterBlank (Char.ofNat n) = false ∧ isSlash true (Char.ofNat n) = false ∧
        Char.ofNat n ∉ ['#', '?'] ∧ Percent.path (Char.ofNat n) = false ∧
          (Char.ofNat n).toLower ∉ ['.', '%'] := by
    decide
  have hc := hall c.toNat hascii
  rw [Char.ofNat_toNat] at hc
  exact hc h

/-- No segment of plain characters is a dot segment. -/
theorem Path.isDot_of_isPlainChar {s : List Char} (h : ∀ c ∈ s, isPlainChar c = true) :
    isDot s = false := by
  have hhead : dotSpellings.all (·.head?.any ['.', '%'].contains) = true := by decide
  refine Bool.eq_false_iff.mpr fun hd => ?_
  have hdot := List.all_eq_true.mp hhead _ (isDot_iff.mp hd)
  cases s with
  | nil => cases hdot
  | cons c s =>
    have hm := List.contains_iff_mem.mp hdot
    exact (plain_of_isPlainChar (h c List.mem_cons_self)).2.2.2.2 hm

theorem Percent.encode_of_isPlainChar {s : List Char} (h : ∀ c ∈ s, isPlainChar c = true) :
    encode path s = s := by
  induction s with
  | nil => rfl
  | cons c s ih =>
    have hc := (plain_of_isPlainChar (h c List.mem_cons_self)).2.2.2.1
    have hs := ih fun d hd => h d (List.mem_cons_of_mem c hd)
    rw [encode] at hs
    rw [encode, List.flatMap_cons, hs, hc]
    rfl

/-- An endpoint that goes on with plain segments: they follow its inner segments, and nothing comes
    behind them. -/
theorem parse_append_of_isPlainChar {domain text : String} {base : Url}
    {stem slashes rest blanks tail : List Char}
    (h : Domain.IsCut domain base stem slashes rest blanks)
    (ht : text.toList = (Domain.bare domain).toList ++ '/' :: tail)
    (hp : ∀ c ∈ '/' :: tail, c = '/' ∨ isPlainChar c = true) :
    parse text = (readAuthority (defaultPort? base.scheme) (placeOf stem)).map fun authority =>
      { scheme := base.scheme, authority := some authority
        path := .ofSegments (innerSegments stem ++ segmentsOf true tail)
        query := none, fragment := none } := by
  have hblank : ∀ c ∈ '/' :: tail, isOuterBlank c = false := by
    intro c hc
    rcases hp c hc with rfl | hc
    · decide
    · exact (plain_of_isPlainChar hc).1
  have hsign : ∀ sign ∈ ['#', '?'], sign ∉ '/' :: tail := by
    intro sign hs hc
    rcases hp sign hc with rfl | hc
    · exact absurd hs (by decide)
    · exact (plain_of_isPlainChar hc).2.2.1 hs
  have hink : endsInInk ('/' :: tail) = true := by
    obtain ⟨front, last, hl⟩ := exists_concat (List.cons_ne_nil '/' tail)
    exact endsInInk_iff.mpr ⟨front, last, hl, hblank last (hl ▸ List.mem_concat_self)⟩
  have hd := h.placeOf_stem.1
  rw [h.parse_append ht hink,
    unbroken_of_forall fun c hc => isLineBlank_of_not_isOuterBlank (hblank c hc),
    cut_of_not_mem (hsign '#' (by decide)), cut_of_not_mem (hsign '?' (by decide)), readNetwork_eq,
    placeOf_append_slash hd rfl, segmentsOf_behindPlace_append hd rfl]
  cases readAuthority (defaultPort? base.scheme) (placeOf stem) <;> rfl

/-- Whether a text is read as a URL with a path and with nothing behind it. -/
def IsReadWith (text : String) (path : List Char) : Prop :=
  ∃ url, parse text = .ok url ∧ url.pathText = path ∧ url.query = none ∧ url.fragment = none

/-- An endpoint that goes on with plain segments is read with these as its path, and with nothing
    else, exactly when it ends in a segment. -/
theorem isReadWith_append_iff {domain text : String} {base : Url} {ss : List (List Char)}
    (hd : Domain.parse domain = .ok base)
    (ht : text.toList = (Domain.bare domain).toList ++ ss.flatMap ('/' :: ·)) (hn : ss ≠ [])
    (hp : ∀ s ∈ ss, ∀ c ∈ s, isPlainChar c = true) :
    IsReadWith text (ss.flatMap ('/' :: ·)) ↔
      endsInSegment (unbroken (Domain.bare domain).toList) = true := by
  obtain ⟨stem, slashes, rest, blanks, h⟩ := Domain.exists_isCut hd
  obtain ⟨tail, htail, hsegments⟩ :
      ∃ tail, ss.flatMap ('/' :: ·) = '/' :: tail ∧ segmentsOf true tail = ss := by
    obtain ⟨first, more, rfl⟩ := List.exists_cons_of_ne_nil hn
    exact ⟨first ++ more.flatMap ('/' :: ·), rfl,
      segmentsOf_flatMap fun s hs c hc => (plain_of_isPlainChar (hp s hs c hc)).2.1⟩
  have hchars : ∀ c ∈ '/' :: tail, c = '/' ∨ isPlainChar c = true := by
    rw [← htail]
    intro c hc
    obtain ⟨s, hs, hm⟩ := List.mem_flatMap.mp hc
    exact (List.mem_cons.mp hm).imp id (hp s hs c)
  have hparse := parse_append_of_isPlainChar h (htail ▸ ht) hchars
  have hrender := Path.render_ofSegments_append hn (fun s hs => Path.isDot_of_isPlainChar (hp s hs))
    (fun s hs => Percent.encode_of_isPlainChar (hp s hs)) (innerSegments stem)
  rw [h.endsInSegment_bare, ← h.isBase_iff, IsReadWith, hparse, hsegments]
  constructor
  · rintro ⟨url, hu, hpath, -, -⟩
    obtain ⟨authority, ha, rfl⟩ := Check.map_eq_ok_iff.mp hu
    exact ⟨⟨authority, ha⟩, hrender.mp hpath⟩
  · rintro ⟨⟨authority, ha⟩, hl⟩
    rw [ha]
    exact ⟨_, rfl, hrender.mpr hl, rfl, rfl⟩

end CallTransfer.Url
