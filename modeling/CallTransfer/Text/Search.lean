/-!
    Looking into a text: whether one text occurs in another, its fields between separators, and
    what follows a beginning.
-/

namespace CallTransfer.Text

/-- Whether `part` occurs somewhere in a text. -/
def occurs [BEq α] (part : List α) : List α → Bool
  | [] => part.isEmpty
  | c :: s => part.isPrefixOf (c :: s) || occurs part s

/-- The pieces of a text between the separators: one more than there are separators. -/
def fields [BEq α] (sep : α) : List α → List (List α)
  | [] => [[]]
  | c :: s =>
    if c == sep then [] :: fields sep s
    else match fields sep s with
      | [] => [[c]]
      | f :: fs => (c :: f) :: fs

/-- What follows `start` in a text that begins with it. -/
def after? [BEq α] (start s : List α) : Option (List α) :=
  if start.isPrefixOf s then some (s.drop start.length) else none

/-- A text occurs in another exactly when it is a run of it. -/
theorem occurs_iff [BEq α] [LawfulBEq α] (part s : List α) :
    occurs part s = true ↔ part <:+: s := by
  induction s with
  | nil => simp [occurs]
  | cons c s ih => simp [occurs, ih, List.infix_cons_iff, List.isPrefixOf_iff_prefix]

theorem fields_ne_nil [BEq α] (sep : α) (s : List α) : fields sep s ≠ [] := by
  cases s with
  | nil => simp [fields]
  | cons c s =>
    simp only [fields]
    split
    · simp
    · split <;> simp

/-- The fields with separators between them are the text. -/
theorem intercalate_fields [BEq α] [LawfulBEq α] (sep : α) (s : List α) :
    [sep].intercalate (fields sep s) = s := by
  induction s with
  | nil => simp [fields, List.intercalate]
  | cons c s ih =>
    simp only [fields]
    cases hf : fields sep s with
    | nil => exact absurd hf (fields_ne_nil sep s)
    | cons f fs =>
      rw [hf] at ih
      split
      · simp_all [List.intercalate]
      · cases fs <;> simp_all [List.intercalate]

/-- No field holds a separator. -/
theorem not_mem_of_mem_fields [BEq α] [LawfulBEq α] {sep : α} {s f : List α}
    (h : f ∈ fields sep s) : sep ∉ f := by
  induction s generalizing f with
  | nil => simp_all [fields]
  | cons c s ih =>
    simp only [fields] at h
    cases hf : fields sep s with
    | nil => exact absurd hf (fields_ne_nil sep s)
    | cons g gs =>
      rw [hf] at h ih
      split at h <;> grind

/-- A separator ends a field: the fields before it and behind it are all the fields. -/
theorem fields_append_cons [BEq α] [LawfulBEq α] (sep : α) (s t : List α) :
    fields sep (s ++ sep :: t) = fields sep s ++ fields sep t := by
  induction s with
  | nil => simp [fields]
  | cons c s ih =>
    rw [List.cons_append, fields, fields, ih]
    split
    · rfl
    · cases hf : fields sep s with
      | nil => exact absurd hf (fields_ne_nil sep s)
      | cons f fs => rfl

/-- A text without a separator is one field. -/
theorem fields_of_not_mem [BEq α] [LawfulBEq α] {sep : α} {s : List α} (h : sep ∉ s) :
    fields sep s = [s] := by
  induction s with
  | nil => rfl
  | cons c s ih =>
    rw [List.mem_cons, not_or] at h
    rw [fields, ih h.2, if_neg (by simpa using Ne.symm h.1)]

/-- What is in a text and no separator is in some field. -/
theorem exists_field_of_mem [BEq α] [LawfulBEq α] {sep c : α} {s : List α} (h : c ∈ s)
    (hc : c ≠ sep) : ∃ f ∈ fields sep s, c ∈ f := by
  induction s with
  | nil => cases h
  | cons d s ih =>
    cases hf : fields sep s with
    | nil => exact absurd hf (fields_ne_nil sep s)
    | cons f fs =>
      rw [fields, hf]
      rw [hf] at ih
      rcases List.mem_cons.mp h with rfl | h
      · rw [if_neg (by simpa using hc)]
        exact ⟨c :: f, List.mem_cons_self, List.mem_cons_self⟩
      · obtain ⟨g, hg, hm⟩ := ih h
        split
        · exact ⟨g, List.mem_cons_of_mem _ hg, hm⟩
        · rcases List.mem_cons.mp hg with rfl | hg
          · exact ⟨d :: g, List.mem_cons_self, List.mem_cons_of_mem _ hm⟩
          · exact ⟨g, List.mem_cons_of_mem _ hg, hm⟩

/-- What holds of all characters of a fixed text is found out one by one. -/
theorem forall_of_all {p : Char → Prop} [DecidablePred p] {s : List Char}
    (h : s.all (decide <| p ·) = true) : ∀ c ∈ s, p c :=
  fun c hc => of_decide_eq_true (List.all_eq_true.mp h c hc)

/-- What holds of all characters up to a number is found out one by one. -/
theorem of_forall_lt {p : Char → Prop} {n : Nat} (h : ∀ k < n, p (Char.ofNat k)) {c : Char}
    (hc : c.toNat < n) : p c :=
  Char.ofNat_toNat c ▸ h c.toNat hc

/-- What follows a beginning is what is left when the text is taken apart there. -/
theorem after?_eq_some_iff [BEq α] [LawfulBEq α] {start s rest : List α} :
    after? start s = some rest ↔ s = start ++ rest := by
  unfold after?
  constructor
  · intro h
    split at h
    · rename_i hp
      obtain ⟨t, rfl⟩ := List.isPrefixOf_iff_prefix.1 hp
      simp_all
    · simp at h
  · rintro rfl
    simp [List.isPrefixOf_iff_prefix]

end CallTransfer.Text
