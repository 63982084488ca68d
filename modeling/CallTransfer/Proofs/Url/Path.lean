import CallTransfer.Url.Parser

/-!
    Paths as they are read. A text between slashes is one segment, and a list of segments is kept
    as it is exactly when no DOT SEGMENT is in it: each one that more segments follow takes at least
    itself away.
-/

namespace CallTransfer.Url

variable {special : Bool}

/-! ### Segments -/

/-- A text without slashes is one segment. -/
theorem segmentsOf_of_forall {s : List Char} (h : ∀ c ∈ s, isSlash special c = false) :
    segmentsOf special s = [s] := by
  induction s with
  | nil => rfl
  | cons c s ih =>
    have hc : isSlash special c = false := h c List.mem_cons_self
    have hs := ih fun d hd => h d (List.mem_cons_of_mem c hd)
    simp only [segmentsOf, hc, hs]
    rfl

theorem segmentsOf_ne_nil (s : List Char) : segmentsOf special s ≠ [] := by
  cases s with
  | nil => exact List.cons_ne_nil _ _
  | cons c s =>
    rw [segmentsOf]
    split
    · exact List.cons_ne_nil _ _
    · split <;> exact List.cons_ne_nil _ _

/-- A slash ends a segment: the segments before it and behind it are all the segments. -/
theorem segmentsOf_append_cons {slash : Char} (hs : isSlash special slash = true)
    (s t : List Char) :
    segmentsOf special (s ++ slash :: t) = segmentsOf special s ++ segmentsOf special t := by
  induction s with
  | nil => simp only [List.nil_append, segmentsOf, hs, if_true, List.cons_append]
  | cons c s ih =>
    rw [List.cons_append, segmentsOf, segmentsOf, ih]
    split
    · rfl
    · cases h : segmentsOf special s with
      | nil => exact absurd h (segmentsOf_ne_nil s)
      | cons f fs => rfl

/-- Segments that are put down behind slashes are read as they are. -/
theorem segmentsOf_flatMap {first : List Char} {ss : List (List Char)}
    (h : ∀ s ∈ first :: ss, ∀ c ∈ s, isSlash special c = false) :
    segmentsOf special (first ++ ss.flatMap ('/' :: ·)) = first :: ss := by
  induction ss generalizing first with
  | nil =>
    rw [List.flatMap_nil, List.append_nil]
    exact segmentsOf_of_forall (h first List.mem_cons_self)
  | cons s ss ih =>
    have hf := segmentsOf_of_forall (h first List.mem_cons_self)
    rw [List.flatMap_cons, List.cons_append, segmentsOf_append_cons (by rfl), hf,
      ih fun t ht => h t (List.mem_cons_of_mem first ht)]
    rfl

/-- What a text without slashes is appended to, its last segment ends with that text. -/
theorem exists_segmentsOf_append (s : List Char) {t : List Char}
    (h : ∀ c ∈ t, isSlash special c = false) :
    ∃ front last, segmentsOf special (s ++ t) = front ++ [last ++ t] := by
  induction s with
  | nil => exact ⟨[], [], segmentsOf_of_forall h⟩
  | cons c s ih =>
    obtain ⟨front, last, hs⟩ := ih
    rw [List.cons_append, segmentsOf, hs]
    split
    · exact ⟨[] :: front, last, rfl⟩
    · cases front with
      | nil => exact ⟨[], c :: last, rfl⟩
      | cons f fs => exact ⟨(c :: f) :: fs, last, rfl⟩

namespace Path

/-! ### Dot segments -/

/-- A segment that is not kept: a single or a double dot, however it is spelled. -/
def isDot (s : List Char) : Bool := isSingleDot s || isDoubleDot s

/-- The spellings of a dot segment in small letters. -/
def dotSpellings : List (List Char) :=
  [".".toList, "%2e".toList, "..".toList, ".%2e".toList, "%2e.".toList, "%2e%2e".toList]

theorem isDot_iff {s : List Char} : isDot s = true ↔ s.map Char.toLower ∈ dotSpellings := by
  have h1 : ".".toList = ['.'] := by decide
  have h2 : "..".toList = ['.', '.'] := by decide
  simp only [isDot, isSingleDot, isDoubleDot, dotSpellings, h1, h2, Bool.or_eq_true, beq_iff_eq,
    List.mem_cons, List.not_mem_nil, or_false, or_assoc]

/-- Only the characters of its spellings are in a dot segment. -/
theorem isDot_of_mem {s : List Char} {c : Char} (h : c ∈ s) (hc : c.toLower ∉ ".%2e".toList) :
    isDot s = false := by
  have hd : ∀ d ∈ dotSpellings.flatten, d ∈ ".%2e".toList := Text.forall_of_all (by decide)
  refine Bool.eq_false_iff.mpr fun hs => hc ?_
  exact hd _ (List.mem_flatten.mpr ⟨_, isDot_iff.mp hs, List.mem_map_of_mem h⟩)

/-- All that is resolved in front of more segments. -/
theorem resolveAfter_cons {done ss : List (List Char)} (s : List Char) (h : ss ≠ []) :
    resolveAfter done (s :: ss) =
      if isDoubleDot s then resolveAfter done.tail ss
      else if isSingleDot s then resolveAfter done ss
      else resolveAfter (s :: done) ss := by
  cases ss with
  | nil => exact absurd rfl h
  | cons t ss => rfl

/-- Segments without dot segments are kept. -/
theorem resolveAfter_of_forall {ss : List (List Char)} (done : List (List Char))
    (h : ∀ s ∈ ss, isDot s = false) : resolveAfter done ss = done.reverse ++ ss := by
  induction ss generalizing done with
  | nil => exact (List.append_nil _).symm
  | cons s ss ih =>
    obtain ⟨h1, h2⟩ := Bool.or_eq_false_iff.mp (h s List.mem_cons_self)
    by_cases hn : ss = []
    · subst hn
      simp only [resolveAfter, h1, h2]
      exact List.reverse_cons
    · rw [resolveAfter_cons s hn, h1, h2, if_neg (by decide), if_neg (by decide),
        ih (s :: done) fun t ht => h t (List.mem_cons_of_mem s ht), List.reverse_cons,
        List.append_assoc]
      rfl

/-- A last segment that is no dot segment is kept. -/
theorem exists_resolveAfter_concat {last : List Char} (hl : isDot last = false)
    (done ss : List (List Char)) :
    ∃ front, resolveAfter done (ss ++ [last]) = front ++ [last] ∧
      front.length ≤ done.length + ss.length := by
  induction ss generalizing done with
  | nil =>
    refine ⟨done.reverse, resolveAfter_of_forall done ?_, ?_⟩
    · intro s hs
      rwa [List.mem_singleton.mp hs]
    · rw [List.length_reverse]
      exact Nat.le_add_right _ _
  | cons s ss ih =>
    rw [List.cons_append, resolveAfter_cons s (by simp), List.length_cons]
    split
    · obtain ⟨front, hf, hb⟩ := ih done.tail
      rw [List.length_tail] at hb
      exact ⟨front, hf, by omega⟩
    · split
      · obtain ⟨front, hf, hb⟩ := ih done
        exact ⟨front, hf, by omega⟩
      · obtain ⟨front, hf, hb⟩ := ih (s :: done)
        rw [List.length_cons] at hb
        exact ⟨front, hf, by omega⟩

/-- A dot segment that more segments follow is missing in the end. -/
theorem length_resolveAfter_lt {last s : List Char} (hl : isDot last = false)
    {ss : List (List Char)} (hs : s ∈ ss) (hd : isDot s = true) (done : List (List Char)) :
    (resolveAfter done (ss ++ [last])).length ≤ done.length + ss.length := by
  induction ss generalizing done with
  | nil => cases hs
  | cons t ss ih =>
    rw [List.cons_append, resolveAfter_cons t (by simp), List.length_cons]
    split
    · obtain ⟨front, hf, hb⟩ := exists_resolveAfter_concat hl done.tail ss
      rw [hf, List.length_append, List.length_singleton]
      rw [List.length_tail] at hb
      omega
    · split
      · obtain ⟨front, hf, hb⟩ := exists_resolveAfter_concat hl done ss
        rw [hf, List.length_append, List.length_singleton]
        omega
      · rename_i h2 h1
        have hs : s ∈ ss := by
          refine (List.mem_cons.mp hs).resolve_left ?_
          rintro rfl
          rw [isDot, Bool.or_eq_true] at hd
          exact hd.elim h1 h2
        have hb := ih hs (t :: done)
        rw [List.length_cons] at hb
        omega

/-- KEPT IN FULL: segments in front of one that is no dot segment are kept as they are exactly when
    none of them is a dot segment either; otherwise there are fewer of them in the end. -/
theorem ofSegments_concat_eq_iff {last : List Char} (hl : isDot last = false)
    (ss : List (List Char)) :
    ofSegments (ss ++ [last]) = segments ((ss ++ [last]).map (Percent.encode Percent.path)) ↔
      ∀ s ∈ ss, isDot s = false := by
  constructor
  · intro h s hs
    refine Bool.eq_false_iff.mpr fun hd => ?_
    have hlt := length_resolveAfter_lt hl hs hd []
    have hlen := congrArg List.length (Path.segments.inj h)
    rw [List.length_map, List.length_map, resolve, List.length_append] at hlen
    rw [hlen, List.length_singleton, List.length_nil] at hlt
    omega
  · intro h
    rw [ofSegments, resolve, resolveAfter_of_forall [] ?_]
    · rfl
    · intro s hs
      rcases List.mem_append.mp hs with hs | hs
      · exact h s hs
      · rwa [List.mem_singleton.mp hs]

/-- A path whose last segment is no dot segment ends with that segment. -/
theorem exists_render_ofSegments_concat {last : List Char} (hl : isDot last = false)
    (ss : List (List Char)) :
    ∃ front, (ofSegments (ss ++ [last])).render =
      front ++ '/' :: Percent.encode Percent.path last := by
  obtain ⟨front, hf, -⟩ := exists_resolveAfter_concat hl [] ss
  refine ⟨(front.map (Percent.encode Percent.path)).flatMap ('/' :: ·), ?_⟩
  rw [ofSegments, resolve, hf, List.map_append, render, List.flatMap_append]
  exact congrArg _ (List.append_nil _)

end Path

end CallTransfer.Url
