import CallTransfer.Proofs.Json.Group

/-!
    Values are read exactly as they are SPELLED: what a reader takes off the front of a text spells
    what it gives, and what spells a value is taken for it. So a text or bytes hold a value exactly
    if they spell one of which that is kept.
-/

namespace CallTransfer.Json

open Text.Utf8 (Scanned)

/-! ### Scalars -/

theorem word_eq_some_iff {w : String} {s rest : Scanned} {u : Unit} :
    word w s = some (u, rest) ↔ s = w.toList.map some ++ rest := by
  simp [word, Text.after?_eq_some_iff]

theorem spellsScalar_of_scalar {s rest : Scanned} {v : Value} (h : scalar s = some (v, rest)) :
    ∃ t, s = t.map some ++ rest ∧ SpellsScalar t v := by
  unfold scalar at h
  split at h
  · obtain ⟨⟨_, left⟩, hw, he⟩ := Option.map_eq_some_iff.mp h
    cases he
    rw [word_eq_some_iff.mp hw]
    exact ⟨_, rfl, .null⟩
  · obtain ⟨⟨_, left⟩, hw, he⟩ := Option.map_eq_some_iff.mp h
    cases he
    rw [word_eq_some_iff.mp hw]
    exact ⟨_, rfl, .true⟩
  · obtain ⟨⟨_, left⟩, hw, he⟩ := Option.map_eq_some_iff.mp h
    cases he
    rw [word_eq_some_iff.mp hw]
    exact ⟨_, rfl, .false⟩
  · obtain ⟨⟨text, left⟩, ht, he⟩ := Option.map_eq_some_iff.mp h
    cases he
    obtain ⟨t, rfl, hs⟩ := stringReader_eq_some_iff.mp ht
    exact ⟨'"' :: t ++ ['"'], by simp, .string hs⟩
  · simp only [Option.bind_eq_bind, Option.bind_eq_some_iff, Option.pure_def] at h
    obtain ⟨⟨n, left⟩, hn, x, hx, he⟩ := h
    cases he
    obtain ⟨t, rfl, ht⟩ := spellsNumber_of_numberText hn
    exact ⟨t, rfl, .number ht hx⟩

theorem mem_of_isDigit {c : Char} (h : Numeral.isDigit c = true) : c ∈ "0123456789".toList := by
  refine Text.of_forall_lt (n := 58) (p := fun c => Numeral.isDigit c = true →
    c ∈ "0123456789".toList) (by decide) ?_ h
  obtain ⟨-, h9⟩ := Bool.and_eq_true_iff.mp h
  exact Nat.lt_succ_of_le (UInt32.le_iff_toNat_le.mp (of_decide_eq_true h9))

/-- A number starts with a sign or a digit. -/
theorem SpellsNumber.exists_cons {t : List Char} {n : NumberText} (h : SpellsNumber t n) :
    ∃ c rest, t = c :: rest ∧ c ∈ "-0123456789".toList := by
  cases h with
  | positive hw _ _ =>
    obtain ⟨c, ds, rfl, hc⟩ := hw.exists_cons
    exact ⟨c, _, rfl, List.mem_cons_of_mem _ (mem_of_isDigit hc)⟩
  | negative hw _ _ => exact ⟨'-', _, rfl, by decide⟩

/-- A scalar starts with neither bracket. -/
theorem SpellsScalar.exists_cons {t : List Char} {v : Value} (h : SpellsScalar t v) :
    ∃ c rest, t = c :: rest ∧ c ∈ openers ∧ c ≠ '[' ∧ c ≠ '\x7b' := by
  cases h with
  | null => exact ⟨_, _, rfl, by decide⟩
  | true => exact ⟨_, _, rfl, by decide⟩
  | false => exact ⟨_, _, rfl, by decide⟩
  | string _ => exact ⟨_, _, rfl, by decide⟩
  | number hn _ =>
    obtain ⟨c, t, rfl, hc⟩ := hn.exists_cons
    have hall : ∀ c ∈ "-0123456789".toList, c ∈ openers ∧ c ≠ '[' ∧ c ≠ '\x7b' :=
      Text.forall_of_all (by decide)
    exact ⟨c, t, rfl, hall c hc⟩

/-- What spells a scalar is taken for it. -/
theorem SpellsScalar.reads {t : List Char} {v : Value} (h : SpellsScalar t v) {rest : Scanned}
    (hr : Stops rest) : scalar (t.map some ++ rest) = some (v, rest) := by
  cases h with
  | null => rfl
  | true => rfl
  | false => rfl
  | string ht =>
    simp only [List.map_append, List.map_cons, List.map_nil, List.append_assoc, List.cons_append,
      List.nil_append]
    rw [scalar, ht.reads, Option.map_some]
  | number hn hx =>
    have hread := numberText_of_spellsNumber hn hr
    obtain ⟨c, t, rfl, hc⟩ := hn.exists_cons
    have hall : ∀ c ∈ "-0123456789".toList, c ∉ "ntf\"".toList := Text.forall_of_all (by decide)
    rw [List.map_cons, List.cons_append] at hread ⊢
    rw [scalar, hread]
    · simp only [Option.bind_eq_bind, Option.bind_some, hx, Option.pure_def]
    all_goals
      rintro _ ⟨⟩
      exact hall _ hc (by decide)

/-! ### Values -/

section Values
variable {d : Nat}

/-- The members that are kept when pairs are read one by one. -/
theorem foldl_insert_merged (ps : List (String × Value)) :
    ps.foldl (fun ms p => Members.insert p.1 p.2.merged ms) [] = kept ps := by
  rw [kept, Members.ofList, List.foldl_map]

/-- Whether a depth reads values exactly as they are spelled. -/
structure ReadsAt (d : Nat) : Prop where
  sound : ∀ {s rest v}, value d s = some (v, rest) →
    ∃ t w, s = t.map some ++ rest ∧ Spells d t w ∧ v = w.merged
  complete : ∀ {t w}, Spells d t w → Takes (value d) t w.merged

theorem ReadsAt.isSound (h : ReadsAt d) (add : Value → σ → σ) :
    IsSound (fun acc s => (value d s).map fun (v, s) => (add v acc, s)) (Spells d)
      fun acc w => add w.merged acc := by
  intro acc s next rest hread
  obtain ⟨⟨v, left⟩, hv, he⟩ := Option.map_eq_some_iff.mp hread
  cases he
  obtain ⟨t, w, rfl, hw, rfl⟩ := h.sound hv
  exact ⟨t, w, rfl, hw, rfl⟩

theorem ReadsAt.isComplete (h : ReadsAt d) (add : Value → σ → σ) :
    IsComplete (fun acc s => (value d s).map fun (v, s) => (add v acc, s)) (Spells d)
      fun acc w => add w.merged acc :=
  fun _ _ hw acc => (h.complete hw).map (add · acc)

theorem merged_of_spellsScalar {t : List Char} {v : Value} (h : SpellsScalar t v) :
    v.merged = v := by
  cases h <;> rfl

theorem readsAt_zero : ReadsAt 0 where
  sound h := by
    obtain ⟨t, rfl, ht⟩ := spellsScalar_of_scalar h
    exact ⟨t, _, rfl, ht, (merged_of_spellsScalar ht).symm⟩
  complete {t w} h := by
    obtain ⟨c, u, rfl, hc, -⟩ := SpellsScalar.exists_cons h
    rw [merged_of_spellsScalar h]
    exact ⟨⟨c, u, rfl, hc⟩, fun rest hr => SpellsScalar.reads h hr⟩

/-- A depth that is read is read around by one more. -/
theorem ReadsAt.succ (h : ReadsAt d) : ReadsAt (d + 1) where
  sound {s rest v} hread := by
    unfold value at hread
    split at hread
    · obtain ⟨⟨vs, left⟩, hgroup, he⟩ := Option.map_eq_some_iff.mp hread
      cases he
      obtain ⟨t, ws, rfl, ht, rfl⟩ := (h.isSound List.cons).group hgroup
      exact ⟨'[' :: t, .array ws, rfl, .array ht, by simp [Value.merged_array]⟩
    · obtain ⟨⟨ms, left⟩, hgroup, he⟩ := Option.map_eq_some_iff.mp hread
      cases he
      obtain ⟨t, ps, rfl, ht, rfl⟩ :=
        (IsSound.member fun key => h.isSound (Members.insert key)).group hgroup
      refine ⟨'\x7b' :: t, .object ps, rfl, .object ht, ?_⟩
      rw [foldl_insert_merged, Value.merged_object]
    · obtain ⟨t, rfl, ht⟩ := spellsScalar_of_scalar hread
      exact ⟨t, v, rfl, .scalar ht, (merged_of_spellsScalar ht).symm⟩
  complete {t w} hw := by
    cases hw with
    | scalar ht =>
      have hread (rest : Scanned) (hr : Stops rest) := ht.reads hr
      rw [merged_of_spellsScalar ht]
      obtain ⟨c, u, rfl, hc, hs, hb⟩ := ht.exists_cons
      refine ⟨⟨c, u, rfl, hc⟩, fun rest hr => ?_⟩
      rw [← hread rest hr, List.map_cons, List.cons_append, value]
      · rintro _ ⟨⟩
        exact hs rfl
      · rintro _ ⟨⟩
        exact hb rfl
    | @array t ws ht =>
      refine ⟨⟨_, t, rfl, by decide⟩, fun rest _ => ?_⟩
      rw [List.map_cons, List.cons_append, value,
        (h.isComplete List.cons).group (Or.inl rfl) ht, Option.map_some, Value.merged_array]
      simp
    | @object t ps ht =>
      refine ⟨⟨_, t, rfl, by decide⟩, fun rest _ => ?_⟩
      rw [List.map_cons, List.cons_append, value,
        (IsComplete.member fun key => h.isComplete (Members.insert key)).group (Or.inr rfl) ht,
        Option.map_some, foldl_insert_merged, Value.merged_object]

/-- Values are read exactly as they are spelled, by induction on the depth. -/
theorem readsAt (d : Nat) : ReadsAt d := by
  induction d with
  | zero => exact readsAt_zero
  | succ d ih => exact ih.succ

end Values

/-! ### Texts -/

/-- What a text holds between blanks is taken for all of it. -/
theorem Takes.document {r : Nat → Reader α} {b t a : List Char} {x : α}
    (h : Takes (r maxDepth) t x) (hb : Blank b) (ha : Blank a) :
    document r ((b ++ t ++ a).map some) = some x := by
  have hstop : Stops (a.map some) := by
    simpa using stops_append ha (s := []) nofun
  have hend := skipBlanks_append ha []
  rw [List.append_nil] at hend
  rw [List.map_append, List.map_append, List.append_assoc, Json.document, skipBlanks_append hb,
    h.skipBlanks, h.reads _ hstop]
  exact if_pos (by rw [hend]; rfl)

/-- The value that a text holds is the one that it spells, as far as that is kept. -/
theorem ofScanned?_eq_some_iff {s : Scanned} {v : Value} :
    Value.ofScanned? s = some v ↔ ∃ t w, s = t.map some ∧ SpellsAll t w ∧ v = w.merged := by
  constructor
  · intro h
    unfold Value.ofScanned? document at h
    obtain ⟨b, hb, hs⟩ := Json.exists_blank s
    split at h
    · rename_i found rest hv
      split at h
      · rename_i hrest
        cases h
        obtain ⟨t, w, ht, hw, rfl⟩ := (readsAt _).sound hv
        obtain ⟨a, ha, hend⟩ := Json.exists_blank rest
        rw [List.isEmpty_iff.mp hrest, List.append_nil] at hend
        refine ⟨b ++ t ++ a, w, ?_, .mk hb hw ha, rfl⟩
        rw [hs, ht, hend]
        simp
      · cases h
    · cases h
  · rintro ⟨t, w, rfl, ⟨hb, hw, ha⟩, rfl⟩
    exact ((readsAt _).complete hw).document hb ha

theorem ofString?_eq_some_iff {text : String} {v : Value} :
    Value.ofString? text = some v ↔ ∃ w, SpellsAll text.toList w ∧ v = w.merged := by
  rw [Value.ofString?, ofScanned?_eq_some_iff]
  constructor
  · rintro ⟨t, w, ht, h⟩
    rw [List.map_inj_right fun _ _ => Option.some.inj] at ht
    exact ⟨w, ht ▸ h⟩
  · rintro ⟨w, h⟩
    exact ⟨_, w, rfl, h⟩

/-- Bytes hold a value exactly if they are a text that spells it, as far as that is kept. -/
theorem ofBytes?_eq_some_iff {bs : Bytes} {v : Value} :
    Value.ofBytes? bs = some v ↔ ∃ w, Holds bs w ∧ v = w.merged := by
  rw [Value.ofBytes?, ofScanned?_eq_some_iff]
  constructor
  · rintro ⟨t, w, hs, h, rfl⟩
    have hd : Text.Utf8.decode? bs = some (String.ofList t) := by
      rw [Text.Utf8.decode?, Text.Utf8.mapM_id_eq_some_iff.mpr hs, Option.map_some]
    exact ⟨w, ⟨_, Text.Utf8.decode?_eq_some_iff.mp hd, by rwa [String.toList_ofList]⟩, rfl⟩
  · rintro ⟨w, ⟨text, rfl, h⟩, rfl⟩
    exact ⟨text.toList, w, Text.Utf8.scan_encode text, h, rfl⟩

end CallTransfer.Json
