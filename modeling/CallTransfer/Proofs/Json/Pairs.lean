import CallTransfer.Json.Reader

/-!
    The members of an object AS WRITTEN. A reader keeps the members of an object by key, each key
    once; what is written are pairs in a row, and a key may stand in any number of them. It is the
    last pair of a key that counts.
-/

namespace CallTransfer

/-! ### The last pair of a key -/

/-- Whether a value is the one in the last pair of a key. -/
def IsLast (pairs : List (String × α)) (key : String) (v : α) : Prop :=
  ∃ before after, pairs = before ++ (key, v) :: after ∧ ∀ p ∈ after, p.1 ≠ key

theorem isLast_iff_lookup {pairs : List (String × α)} {key : String} {v : α} :
    IsLast pairs key v ↔ pairs.reverse.lookup key = some v := by
  rw [List.lookup_eq_some_iff]
  constructor
  · rintro ⟨before, after, rfl, hafter⟩
    refine ⟨after.reverse, before.reverse, by simp, fun p hp => ?_⟩
    exact bne_iff_ne.mpr (hafter p (List.mem_reverse.mp hp)).symm
  · rintro ⟨later, earlier, hp, hlater⟩
    refine ⟨earlier.reverse, later.reverse, ?_, fun p hp => ?_⟩
    · rw [← List.reverse_reverse pairs, hp]
      simp
    · exact (bne_iff_ne.mp (hlater p (List.mem_reverse.mp hp))).symm

/-- Where every key stands in one pair only, that is the last one. -/
theorem isLast_iff_mem {pairs : List (String × α)} (h : pairs.Pairwise fun p q => p.1 ≠ q.1)
    {key : String} {v : α} : IsLast pairs key v ↔ (key, v) ∈ pairs := by
  constructor
  · rintro ⟨before, after, rfl, -⟩
    exact List.mem_append_right before List.mem_cons_self
  · intro hm
    obtain ⟨before, after, rfl⟩ := List.append_of_mem hm
    obtain ⟨-, hafter, -⟩ := List.pairwise_append.mp h
    exact ⟨before, after, rfl, fun p hp => ((List.pairwise_cons.mp hafter).1 p hp).symm⟩

theorem IsLast.unique {pairs : List (String × α)} {key : String} {v w : α}
    (hv : IsLast pairs key v) (hw : IsLast pairs key w) : v = w :=
  Option.some.inj ((isLast_iff_lookup.mp hv).symm.trans (isLast_iff_lookup.mp hw))

/-- Whatever is made of the values in pairs, the last pair of a key stays that. -/
theorem isLast_map_iff {f : α → β} {pairs : List (String × α)} {key : String} {v : β} :
    IsLast (pairs.map fun p => (p.1, f p.2)) key v ↔ ∃ w, IsLast pairs key w ∧ f w = v := by
  constructor
  · rintro ⟨before, after, hp, hafter⟩
    obtain ⟨earlier, rest, rfl, rfl, hrest⟩ := List.map_eq_append_iff.mp hp
    obtain ⟨⟨k, w⟩, later, rfl, he, rfl⟩ := List.map_eq_cons_iff.mp hrest
    cases he
    refine ⟨w, ⟨earlier, later, rfl, fun p hm => ?_⟩, rfl⟩
    exact hafter _ (List.mem_map_of_mem hm)
  · rintro ⟨w, ⟨before, after, rfl, hafter⟩, rfl⟩
    refine ⟨_, _, List.map_append, fun p hm => ?_⟩
    obtain ⟨q, hq, rfl⟩ := List.mem_map.mp hm
    exact hafter q hq

/-- A member that is found is the last one of its key among the pairs that the members are made
    of. -/
theorem Members.find?_ofList_eq_some_iff {pairs : List (String × α)} {key : String} {v : α} :
    (Members.ofList pairs).find? key = some v ↔ IsLast pairs key v := by
  rw [isLast_iff_lookup, ofList, List.foldl_eq_foldr_reverse]
  induction pairs.reverse with
  | nil => simp [find?]
  | cons p later ih =>
    rw [List.foldr_cons, find?_insert, List.lookup_cons]
    by_cases hk : key = p.1
    · simp [hk]
    · rw [if_neg hk, beq_eq_false_iff_ne.mpr hk]
      exact ih

/-- Sorted members are made of their own pairs, in whatever order these are. -/
theorem Members.ofList_of_perm {ms : Members α} (h : ms.Sorted) {ps : List (String × α)}
    (hp : ps.Perm ms) : ofList ps = ms := by
  have hps : ps.Pairwise fun p q => p.1 ≠ q.1 :=
    h.pairwise_ne.perm hp.symm fun hne => hne.symm
  refine (sorted_ofList ps).ext h fun key => Option.ext fun v => ?_
  rw [find?_ofList_eq_some_iff, isLast_iff_mem hps, hp.mem_iff, h.find?_eq_some_iff]

theorem Members.Sorted.ofList_eq {ms : Members α} (h : ms.Sorted) : ofList ms = ms :=
  ofList_of_perm h (List.Perm.refl ms)

namespace Json

open Text.Utf8 (Scanned)

/-! ### Reading pairs -/

/-- The pairs of an object in the order in which they are written. -/
def pairs : Nat → Reader (List (String × Value))
  | d + 1, some '\x7b' :: s =>
    group '\x7d' (member fun k ps s => (value d s).map fun (v, s) => (ps ++ [(k, v)], s)) [] s
  | _, _ => none

/-- The pairs of the object that a text holds. -/
def pairs? (text : String) : Option (List (String × Value)) :=
  document pairs (text.toList.map some)

section Loops
variable {f : σ → τ} {close : Char}

/-- Whether one step reads as another one does, and what it makes of an accumulator is the image of
    what that makes of it. -/
def Images (f : σ → τ) (item : σ → Reader σ) (other : τ → Reader τ) : Prop :=
  ∀ acc s, other (f acc) s = (item acc s).map fun (acc, s) => (f acc, s)

/-- Items are read alike one after the other, by induction on their number. -/
theorem Images.itemsUpTo {item : σ → Reader σ} {other : τ → Reader τ} (h : Images f item other)
    (n : Nat) : Images f (itemsUpTo close item n) (Json.itemsUpTo close other n) := by
  induction n with
  | zero => exact fun _ _ => rfl
  | succ n ih =>
    intro acc s
    simp only [Json.itemsUpTo, h acc]
    cases item acc (skipBlanks s) with
    | none => rfl
    | some read =>
      obtain ⟨acc, s⟩ := read
      simp only [Option.map_some, Option.bind_eq_bind, Option.bind_some]
      split
      · split
        · exact ih acc _
        · split <;> rfl
      · rfl

theorem Images.group (close : Char) {item : σ → Reader σ} {other : τ → Reader τ}
    (h : Images f item other) : Images f (Json.group close item) (Json.group close other) := by
  intro acc s
  unfold Json.group
  split
  · rfl
  · split
    · rfl
    · exact h.itemsUpTo _ acc _

theorem Images.member {item : String → σ → Reader σ} {other : String → τ → Reader τ}
    (h : ∀ key, Images f (item key) (other key)) :
    Images f (Json.member item) (Json.member other) := by
  intro acc s
  unfold Json.member
  split
  · rename_i s
    cases stringReader s with
    | none => rfl
    | some read =>
      obtain ⟨key, s⟩ := read
      simp only [Option.bind_eq_bind, Option.bind_some]
      split
      · exact h key acc _
      · rfl
  · rfl

end Loops

/-- Nothing but an opening bracket begins an array or an object. -/
theorem object?_of_scalar {s rest : Scanned} {v : Value} (h : scalar s = some (v, rest)) :
    v.object? = none := by
  unfold scalar at h
  split at h
  · obtain ⟨_, -, he⟩ := Option.map_eq_some_iff.mp h
    cases he
    rfl
  · obtain ⟨_, -, he⟩ := Option.map_eq_some_iff.mp h
    cases he
    rfl
  · obtain ⟨_, -, he⟩ := Option.map_eq_some_iff.mp h
    cases he
    rfl
  · obtain ⟨_, -, he⟩ := Option.map_eq_some_iff.mp h
    cases he
    rfl
  · obtain ⟨_, -, he⟩ := Option.bind_eq_some_iff.mp h
    obtain ⟨_, -, he⟩ := Option.bind_eq_some_iff.mp he
    cases he
    rfl

/-- Pairs are read as the members are that they make. -/
theorem images_ofList (d : Nat) (key : String) : Images Members.ofList
    (fun ps s => (value d s).map fun (v, s) => (ps ++ [(key, v)], s))
    (fun ms s => (value d s).map fun (v, s) => (Members.insert key v ms, s)) := by
  intro ps s
  simp only [Option.map_map, Members.ofList, Function.comp_def, List.foldl_append, List.foldl_cons,
    List.foldl_nil]

/-- The value that is an object is the one whose members are made of the pairs. -/
theorem value_eq_some_object_iff {d : Nat} {s rest : Scanned} {ms : Members Value} :
    value d s = some (.object ms, rest) ↔
      ∃ ps, pairs d s = some (ps, rest) ∧ Members.ofList ps = ms := by
  have hscalar {s : Scanned} : scalar s ≠ some (.object ms, rest) := by
    intro h
    cases object?_of_scalar h
  cases d with
  | zero => exact ⟨fun h => absurd h hscalar, nofun⟩
  | succ d =>
    unfold value
    split
    · constructor
      · intro h
        obtain ⟨_, -, he⟩ := Option.map_eq_some_iff.mp h
        cases he
      · nofun
    · rename_i s
      have himages := (Images.member (images_ofList d)).group '\x7d' [] s
      rw [pairs]
      change (Option.map _ (group _ _ (Members.ofList []) s)) = _ ↔ _
      rw [himages]
      simp
    · rename_i hobject
      unfold pairs
      split
      · exact absurd rfl (hobject _)
      · exact ⟨fun h => absurd h hscalar, nofun⟩

/-- A text holds an object exactly if it holds pairs, and these are what its members are made of. -/
theorem ofString?_eq_some_object_iff {text : String} {ms : Members Value} :
    Value.ofString? text = some (.object ms) ↔
      ∃ ps, pairs? text = some ps ∧ Members.ofList ps = ms := by
  unfold Value.ofString? Value.ofScanned? pairs? document
  generalize skipBlanks (text.toList.map some) = s
  constructor
  · intro h
    split at h
    · rename_i v rest hv
      split at h
      · rename_i hrest
        cases h
        obtain ⟨ps, hps, rfl⟩ := value_eq_some_object_iff.mp hv
        exact ⟨ps, by rw [hps]; exact if_pos hrest, rfl⟩
      · cases h
    · cases h
  · rintro ⟨ps, h, rfl⟩
    split at h
    · rename_i read rest hv
      split at h
      · rename_i hrest
        cases h
        rw [value_eq_some_object_iff.mpr ⟨_, hv, rfl⟩]
        exact if_pos hrest
      · cases h
    · cases h

end Json

end CallTransfer
