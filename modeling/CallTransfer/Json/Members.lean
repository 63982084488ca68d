/-!
    The members of an object, sorted by key with every key once. A later member replaces an earlier
    one of the same key. Keys are compared by code point, which is also the order of their bytes.
-/

namespace CallTransfer

/-- Values under keys, in the order of the keys. -/
abbrev Members (α : Type) := List (String × α)

namespace Members

/-- The members with `v` under the key `k`. -/
def insert (k : String) (v : α) : Members α → Members α
  | [] => [(k, v)]
  | (k', v') :: ms =>
    if k < k' then (k, v) :: (k', v') :: ms
    else if k = k' then (k, v) :: ms
    else (k', v') :: insert k v ms

/-- The value under a key. -/
def find? (k : String) : Members α → Option α
  | [] => none
  | (k', v) :: ms => if k = k' then some v else find? k ms

/-- Members out of pairs in the order in which they are written. -/
def ofList (ps : List (String × α)) : Members α := ps.foldl (fun ms p => insert p.1 p.2 ms) []

/-- The members without a key. -/
def erase (k : String) (ms : Members α) : Members α := ms.filter fun m => m.1 != k

/-- A member that is set is found under its key, and the others are found as before. -/
theorem find?_insert (k : String) (v : α) (ms : Members α) (key : String) :
    (ms.insert k v).find? key = if key = k then some v else ms.find? key := by
  induction ms with
  | nil => simp [insert, find?]
  | cons m ms ih =>
    obtain ⟨k', v'⟩ := m
    simp only [insert]
    split
    · rfl
    · split
      · rename_i h
        subst h
        by_cases hk : key = k <;> simp [find?, hk]
      · rename_i h
        by_cases hk : key = k'
        · simp [find?, hk, Ne.symm h]
        · simp [find?, hk, ih]

/-- A key that is dropped is not found, and the others are found as before. -/
theorem find?_erase (k : String) (ms : Members α) (key : String) :
    (ms.erase k).find? key = if key = k then none else ms.find? key := by
  induction ms with
  | nil => simp [erase, find?]
  | cons m ms ih =>
    obtain ⟨k', v'⟩ := m
    simp only [erase] at ih
    by_cases h : k' = k
    · subst h
      by_cases hk : key = k' <;> simp_all [erase, find?]
    · by_cases hk : key = k' <;> simp_all [erase, find?]

/-! ### Order -/

/-- Whether members stand in the order of their keys, with every key once. -/
def Sorted (ms : Members α) : Prop := ms.Pairwise fun m n => m.1 < n.1

/-- Members are sorted if their keys are. -/
theorem sorted_iff_keys {ms : Members α} : ms.Sorted ↔ (ms.map Prod.fst).Pairwise (· < ·) :=
  List.pairwise_map.symm

theorem Sorted.pairwise_ne {ms : Members α} (h : ms.Sorted) :
    ms.Pairwise fun m n => m.1 ≠ n.1 :=
  List.Pairwise.imp String.ne_of_lt h

theorem mem_insert {k : String} {v : α} {ms : Members α} {m : String × α}
    (h : m ∈ ms.insert k v) : m = (k, v) ∨ m ∈ ms := by
  induction ms with
  | nil => exact Or.inl (List.mem_singleton.mp h)
  | cons n ms ih =>
    simp only [insert] at h
    split at h
    · exact List.mem_cons.mp h
    · split at h
      · exact (List.mem_cons.mp h).imp_right (List.mem_cons_of_mem _)
      · rcases List.mem_cons.mp h with rfl | h
        · exact Or.inr List.mem_cons_self
        · exact (ih h).imp_right (List.mem_cons_of_mem _)

/-- A member that is set stands in its place. -/
theorem Sorted.insert (k : String) (v : α) {ms : Members α} (h : ms.Sorted) :
    (ms.insert k v).Sorted := by
  induction ms with
  | nil => exact List.pairwise_singleton ..
  | cons n ms ih =>
    obtain ⟨hn, hms⟩ := List.pairwise_cons.mp h
    simp only [Members.insert]
    split
    · rename_i hlt
      refine List.pairwise_cons.mpr ⟨fun m hm => ?_, h⟩
      rcases List.mem_cons.mp hm with rfl | hm
      · exact hlt
      · exact String.lt_trans hlt (hn m hm)
    · rename_i hlt
      split
      · rename_i heq
        exact List.pairwise_cons.mpr ⟨heq ▸ hn, hms⟩
      · rename_i hne
        have hgt : n.1 < k := by grind
        refine List.pairwise_cons.mpr ⟨fun m hm => ?_, ih hms⟩
        rcases mem_insert hm with rfl | hm
        · exact hgt
        · exact hn m hm

theorem sorted_foldl_insert {ms : Members α} (h : ms.Sorted) (ps : List (String × α)) :
    (ps.foldl (fun ms p => insert p.1 p.2 ms) ms).Sorted := by
  induction ps generalizing ms with
  | nil => exact h
  | cons p ps ih => exact ih (h.insert p.1 p.2)

/-- Members are sorted whatever order their pairs are in. -/
theorem sorted_ofList (ps : List (String × α)) : (ofList ps).Sorted :=
  sorted_foldl_insert List.Pairwise.nil ps

theorem mem_of_mem_ofList {ps : List (String × α)} {m : String × α} (h : m ∈ ofList ps) :
    m ∈ ps := by
  have hfold : ∀ ms : Members α, m ∈ ps.foldl (fun ms p => insert p.1 p.2 ms) ms →
      m ∈ ms ∨ m ∈ ps := by
    clear h
    induction ps with
    | nil => exact fun ms h => Or.inl h
    | cons p ps ih =>
      intro ms h
      rcases ih _ h with h | h
      · rcases mem_insert h with rfl | h
        · exact Or.inr List.mem_cons_self
        · exact Or.inl h
      · exact Or.inr (List.mem_cons_of_mem p h)
  exact (hfold [] h).resolve_left List.not_mem_nil

/-- What is found under a key of sorted members is the one member with that key. -/
theorem Sorted.find?_eq_some_iff {ms : Members α} (h : ms.Sorted) {k : String} {v : α} :
    ms.find? k = some v ↔ (k, v) ∈ ms := by
  induction ms with
  | nil => exact ⟨nofun, nofun⟩
  | cons n ms ih =>
    obtain ⟨hn, hms⟩ := List.pairwise_cons.mp h
    rw [Members.find?, List.mem_cons]
    split
    · rename_i heq
      have hnot : (k, v) ∉ ms := by
        intro hm
        have hlt := hn _ hm
        rw [heq] at hlt
        exact String.lt_irrefl _ hlt
      rw [or_iff_left hnot, heq, Option.some.injEq, Prod.ext_iff]
      exact ⟨fun hv => ⟨rfl, hv.symm⟩, fun hv => hv.2.symm⟩
    · rename_i hne
      rw [or_iff_right fun he => hne (congrArg Prod.fst he)]
      exact ih hms

/-- Sorted members are told by what is found under their keys. -/
theorem Sorted.ext {ms ns : Members α} (hm : ms.Sorted) (hn : ns.Sorted)
    (h : ∀ k, ms.find? k = ns.find? k) : ms = ns := by
  have hnodup {ms : Members α} (h : ms.Sorted) : ms.Nodup :=
    h.pairwise_ne.imp fun hne heq => hne (congrArg Prod.fst heq)
  refine List.Perm.eq_of_pairwise ?_ hm hn ?_
  · exact fun m n _ _ hlt hgt => absurd hgt (String.lt_asymm hlt)
  · refine (List.perm_ext_iff_of_nodup (hnodup hm) (hnodup hn)).mpr fun ⟨k, v⟩ => ?_
    rw [← hm.find?_eq_some_iff, ← hn.find?_eq_some_iff, h]

end Members

end CallTransfer
