import CallTransfer.Proofs.Json.Pairs
import CallTransfer.Proofs.Json.Reading

/-!
    What is WRITTEN is read back. A value that FITS is one that a reader can give: it nests no
    deeper than the reader goes, its integers have 64 bits, and its members stand in the order of
    their keys. If it holds no doubles, then its text spells it, and nothing else is read off that
    text.
-/

namespace CallTransfer.Json

open Text.Utf8 (Scanned)

/-- Whether a double is somewhere in a value. -/
inductive HoldsFloat : Value → Prop
  | number : HoldsFloat (.number (.float x))
  | item (hm : v ∈ vs) (h : HoldsFloat v) : HoldsFloat (.array vs)
  | member (hm : m ∈ ms) (h : HoldsFloat m.2) : HoldsFloat (.object ms)

mutual

/-- Whether a double is found in a value. -/
def Value.hasFloat : Value → Bool
  | .number (.float _) => true
  | .array vs => itemsHaveFloat vs
  | .object ms => membersHaveFloat ms
  | _ => false

/-- Whether a double is found in one of several values. -/
def itemsHaveFloat : List Value → Bool
  | [] => false
  | v :: vs => v.hasFloat || itemsHaveFloat vs

/-- Whether a double is found in the value of one of several members. -/
def membersHaveFloat : List (String × Value) → Bool
  | [] => false
  | (_, v) :: ms => v.hasFloat || membersHaveFloat ms

end

mutual

theorem holdsFloat_of_hasFloat : ∀ {v : Value}, v.hasFloat = true → HoldsFloat v
  | .number (.float _), _ => .number
  | .array _, h =>
    have ⟨_, hm, hv⟩ := exists_item_of_itemsHaveFloat (by simpa only [Value.hasFloat] using h)
    .item hm hv
  | .object _, h =>
    have ⟨_, hm, hv⟩ := exists_member_of_membersHaveFloat (by simpa only [Value.hasFloat] using h)
    .member hm hv

theorem exists_item_of_itemsHaveFloat : ∀ {vs : List Value}, itemsHaveFloat vs = true →
    ∃ v ∈ vs, HoldsFloat v
  | v :: vs, h => by
    rcases Bool.or_eq_true_iff.mp (by simpa only [itemsHaveFloat] using h) with h | h
    · exact ⟨v, List.mem_cons_self, holdsFloat_of_hasFloat h⟩
    · obtain ⟨w, hm, hw⟩ := exists_item_of_itemsHaveFloat h
      exact ⟨w, List.mem_cons_of_mem v hm, hw⟩

theorem exists_member_of_membersHaveFloat : ∀ {ms : List (String × Value)},
    membersHaveFloat ms = true → ∃ m ∈ ms, HoldsFloat m.2
  | m :: ms, h => by
    rcases Bool.or_eq_true_iff.mp (by simpa only [membersHaveFloat] using h) with h | h
    · exact ⟨m, List.mem_cons_self, holdsFloat_of_hasFloat h⟩
    · obtain ⟨n, hm, hn⟩ := exists_member_of_membersHaveFloat h
      exact ⟨n, List.mem_cons_of_mem m hm, hn⟩

end

theorem itemsHaveFloat_eq_any (vs : List Value) : itemsHaveFloat vs = vs.any Value.hasFloat := by
  induction vs with
  | nil => rfl
  | cons v vs ih => rw [itemsHaveFloat, ih, List.any_cons]

theorem membersHaveFloat_eq_any (ms : List (String × Value)) :
    membersHaveFloat ms = ms.any (·.2.hasFloat) := by
  induction ms with
  | nil => rfl
  | cons m ms ih => rw [membersHaveFloat, ih, List.any_cons]

theorem hasFloat_iff {v : Value} : v.hasFloat = true ↔ HoldsFloat v := by
  refine ⟨holdsFloat_of_hasFloat, fun h => ?_⟩
  induction h with
  | number => rfl
  | item hm _ ih =>
    rw [Value.hasFloat, itemsHaveFloat_eq_any]
    exact List.any_eq_true.mpr ⟨_, hm, ih⟩
  | member hm _ ih =>
    rw [Value.hasFloat, membersHaveFloat_eq_any]
    exact List.any_eq_true.mpr ⟨_, hm, ih⟩

instance (v : Value) : Decidable (HoldsFloat v) := decidable_of_iff _ hasFloat_iff

/-- Whether a value is one that a reader can give who follows arrays and objects to a depth. -/
inductive Fits : Nat → Value → Prop
  | null : Fits d .null
  | bool : Fits d (.bool b)
  | int {n : Int} (hl : -int64Bound ≤ n) (hu : n < UInt64.size) : Fits d (.number (.int n))
  | float : Fits d (.number (.float x))
  | string : Fits d (.string s)
  | array (h : ∀ v ∈ vs, Fits d v) : Fits (d + 1) (.array vs)
  | object (hs : Members.Sorted ms) (h : ∀ m ∈ ms, Fits d m.2) : Fits (d + 1) (.object ms)

variable {d : Nat} {v : Value}

theorem Fits.object? {ms : Members Value} (h : Fits (d + 1) (.object ms)) :
    ms.Sorted ∧ ∀ m ∈ ms, Fits d m.2 := by
  cases h with
  | object hs h => exact ⟨hs, h⟩

/-- What fits is kept as it is. -/
theorem Fits.merged_eq (h : Fits d v) : v.merged = v := by
  induction h with
  | null => rfl
  | bool => rfl
  | int => rfl
  | float => rfl
  | string => rfl
  | array _ ih => rw [Value.merged_array, List.map_congr_left ih, List.map_id']
  | @object ms d hs _ ih =>
    have hsame : ms.map (fun m => (m.1, m.2.merged)) = ms.map id :=
      List.map_congr_left fun m hm => congrArg (m.1, ·) (ih m hm)
    rw [Value.merged_object, kept, hsame, List.map_id, hs.ofList_eq]

/-- What fits where it may nest to a depth fits where it may nest one deeper. -/
theorem Fits.succ (h : Fits d v) : Fits (d + 1) v := by
  induction h with
  | null => exact .null
  | bool => exact .bool
  | int hl hu => exact .int hl hu
  | float => exact .float
  | string => exact .string
  | array _ ih => exact .array ih
  | object hs _ ih => exact .object hs ih

theorem Fits.insert {ms : Members Value} (h : Fits (d + 1) (.object ms)) (hv : Fits d v)
    (k : String) : Fits (d + 1) (.object (ms.insert k v)) := by
  obtain ⟨hs, hfits⟩ := h.object?
  refine .object (hs.insert k v) fun m hm => ?_
  rcases Members.mem_insert hm with rfl | hm
  · exact hv
  · exact hfits m hm

theorem not_holdsFloat_insert {ms : Members Value} (h : ¬ HoldsFloat (.object ms))
    (hv : ¬ HoldsFloat v) (k : String) : ¬ HoldsFloat (.object (ms.insert k v)) := by
  rintro (_ | _ | ⟨hm, hm'⟩)
  rcases Members.mem_insert hm with rfl | hm
  · exact hv hm'
  · exact h (.member hm hm')

/-! ### What is kept -/

theorem Value.merged_eq_string_iff {s : String} : v.merged = .string s ↔ v = .string s := by
  cases v with
  | array vs => simp [merged_array]
  | object ps => simp [merged_object]
  | _ => exact Iff.rfl

theorem Value.merged_eq_object_iff {ms : Members Value} :
    v.merged = .object ms ↔ ∃ ps, v = .object ps ∧ kept ps = ms := by
  cases v with
  | object ps => simp [merged_object]
  | array vs => simp [merged_array]
  | _ => simp [merged]

/-- What is found under a key is what is kept of the last value of that key. -/
theorem find?_kept_eq_some_iff {ps : List (String × Value)} {key : String} :
    (kept ps).find? key = some v ↔ ∃ w, IsLast ps key w ∧ w.merged = v := by
  rw [kept, Members.find?_ofList_eq_some_iff, isLast_map_iff]

theorem sorted_kept (ps : List (String × Value)) : (kept ps).Sorted :=
  Members.sorted_ofList _

/-! ### What is read fits -/

theorem accumulate_lt {bound n : Nat} (h : n < bound) (ds : List Char) :
    (accumulate bound n ds).1 < bound := by
  fun_induction accumulate bound n ds with
  | case1 n => exact h
  | case2 n c ds hc ih => exact ih hc
  | case3 n c ds hc => exact h

theorem scaledFloat_ne_int {negative : Bool} {significand : Nat} {e n : Int} :
    scaledFloat negative significand e ≠ some (.int n) := by
  intro h
  simp only [scaledFloat, Option.bind_eq_bind, Option.bind_eq_some_iff] at h
  obtain ⟨_, -, _, -, he⟩ := h
  cases he

/-- An integer that a number denotes has 64 bits. -/
theorem range_of_value? {t : NumberText} {n : Int} (h : t.value? = some (.int n)) :
    -int64Bound ≤ n ∧ n < UInt64.size := by
  have hlt : (accumulate UInt64.size 0 t.whole).1 < UInt64.size := accumulate_lt (by decide) _
  unfold NumberText.value? at h
  generalize accumulate UInt64.size 0 t.whole = read at h hlt
  obtain ⟨significand, dropped⟩ := read
  simp only at h hlt
  split at h
  · split at h
    · cases h
      omega
    · split at h
      · cases h
        omega
      · cases scaledFloat_ne_int h
  · split at h
    · cases scaledFloat_ne_int h
    · split at h
      · cases scaledFloat_ne_int h
      · split at h <;> cases h

theorem SpellsScalar.fits {t : List Char} (h : SpellsScalar t v) : Fits d v := by
  cases h with
  | null => exact .null
  | true => exact .bool
  | false => exact .bool
  | string _ => exact .string
  | @number t n x hn hx =>
    cases x with
    | int i =>
      obtain ⟨hl, hu⟩ := range_of_value? hx
      exact .int hl hu
    | float x => exact .float

section Group
variable {close : Char} {Item : List Char → α → Prop}

theorem SpellsItems.exists_spelled {t : List Char} {xs : List α} (h : SpellsItems close Item t xs) :
    ∀ x ∈ xs, ∃ t, Item t x := by
  induction h with
  | last _ hx _ => exact List.forall_mem_singleton.mpr ⟨_, hx⟩
  | cons _ hx _ _ ih => exact List.forall_mem_cons.mpr ⟨⟨_, hx⟩, ih⟩

/-- Every item of a group is spelled in it. -/
theorem SpellsGroup.exists_spelled {t : List Char} {xs : List α} (h : SpellsGroup close Item t xs) :
    ∀ x ∈ xs, ∃ t, Item t x := by
  cases h with
  | empty _ => exact fun x hx => absurd hx List.not_mem_nil
  | items h => exact h.exists_spelled

end Group

/-- What is kept of a value that is spelled fits, by induction on the depth. -/
theorem Spells.fits {t : List Char} (h : Spells d t v) : Fits d v.merged := by
  induction d generalizing t v with
  | zero =>
    rw [merged_of_spellsScalar h]
    exact SpellsScalar.fits h
  | succ d ih =>
    cases h with
    | scalar h =>
      rw [merged_of_spellsScalar h]
      exact h.fits
    | array h =>
      rw [Value.merged_array]
      refine .array fun v hv => ?_
      obtain ⟨w, hw, rfl⟩ := List.mem_map.mp hv
      obtain ⟨t, ht⟩ := h.exists_spelled w hw
      exact ih ht
    | object h =>
      rw [Value.merged_object]
      refine .object (Members.sorted_ofList _) fun m hm => ?_
      obtain ⟨p, hp, rfl⟩ := List.mem_map.mp (Members.mem_of_mem_ofList hm)
      obtain ⟨_, -, -, -, ht⟩ := h.exists_spelled p hp
      exact ih ht

theorem fits_of_value {s rest : Scanned} (h : value d s = some (v, rest)) : Fits d v := by
  obtain ⟨t, w, -, hw, rfl⟩ := (readsAt d).sound h
  exact hw.fits

/-! ### What is written is spelled -/

/-- Items that are spelled one by one are spelled with commas between them. -/
theorem spellsItems_flatMap {close : Char} {Item : List Char → α → Prop} {text : α → List Char}
    {x : α} {xs : List α} (h : ∀ y ∈ x :: xs, Item (text y) y) :
    SpellsItems close Item (text x ++ xs.flatMap (fun y => ',' :: text y) ++ [close])
      (x :: xs) := by
  induction xs generalizing x with
  | nil =>
    have hlast : SpellsItems close Item ([] ++ text x ++ [] ++ [close]) [x] :=
      .last nofun (h x List.mem_cons_self) nofun
    simpa using hlast
  | cons y ys ih =>
    obtain ⟨hx, hys⟩ := List.forall_mem_cons.mp h
    have hcons := SpellsItems.cons (b := []) (a := []) nofun hx nofun (ih hys)
    simpa using hcons

theorem writeItems_eq (vs : List Value) :
    writeItems vs = vs.flatMap (fun v => ',' :: write v) ++ [']'] := by
  induction vs with
  | nil => rfl
  | cons v vs ih => simp [writeItems, ih]

/-- The text of a member. -/
def writeMember (m : String × Value) : List Char := writeString m.1 ++ ':' :: write m.2

theorem writeMembers_eq (ms : Members Value) :
    writeMembers ms = ms.flatMap (fun m => ',' :: writeMember m) ++ ['\x7d'] := by
  induction ms with
  | nil => rfl
  | cons m ms ih => simp [writeMembers, writeMember, ih]

/-- The text of a member spells a pair if that of its value spells an item. -/
theorem spellsPair_writeMember {Item : List Char → α → Prop} {m : String × Value} {x : α}
    (h : Item (write m.2) x) : SpellsPair Item (writeMember m) (m.1, x) := by
  have hpair := SpellsPair.mk (b := []) (a := []) (spellsText_flatMap m.1.toList) nofun nofun h
  simpa [writeMember, writeString] using hpair

/-- The items of an array are spelled as a group if they are spelled one by one. -/
theorem exists_spellsGroup_array {Item : List Char → Value → Prop} {vs : List Value}
    (h : ∀ v ∈ vs, Item (write v) v) :
    ∃ t, write (.array vs) = '[' :: t ∧ SpellsGroup ']' Item t vs := by
  cases vs with
  | nil => exact ⟨_, rfl, .empty (b := []) nofun⟩
  | cons v vs =>
    refine ⟨write v ++ writeItems vs, rfl, .items ?_⟩
    rw [writeItems_eq, ← List.append_assoc]
    exact spellsItems_flatMap h

/-- The members of an object are spelled as a group of pairs if their values are spelled one by one;
    `embed` tells what is written for a value. -/
theorem exists_spellsGroup_object {Item : List Char → α → Prop} (embed : α → Value)
    {ps : List (String × α)} (h : ∀ p ∈ ps, Item (write (embed p.2)) p.2) :
    ∃ t, write (.object (ps.map fun p => (p.1, embed p.2))) = '\x7b' :: t ∧
      SpellsGroup '\x7d' (SpellsPair Item) t ps := by
  have hpair : ∀ p ∈ ps, SpellsPair Item (writeMember (p.1, embed p.2)) p :=
    fun p hp => spellsPair_writeMember (h p hp)
  cases ps with
  | nil => exact ⟨_, rfl, .empty (b := []) nofun⟩
  | cons p ps =>
    refine ⟨_, rfl, .items ?_⟩
    have hitems : SpellsItems '\x7d' (SpellsPair Item) _ (p :: ps) := spellsItems_flatMap hpair
    simpa [writeMembers_eq, writeMember, List.flatMap_map] using hitems

theorem SpellsScalar.spells {t : List Char} (h : SpellsScalar t v) : Spells d t v := by
  cases d with
  | zero => exact h
  | succ d => exact .scalar h

/-- An object is spelled by its text if its values are, in whatever order its members stand. -/
theorem spells_object {ps : List (String × Value)} (h : ∀ p ∈ ps, Spells d (write p.2) p.2) :
    Spells (d + 1) (write (.object ps)) (.object ps) := by
  obtain ⟨t, ht, hs⟩ := exists_spellsGroup_object id h
  have hsame : ps.map (fun p => (p.1, id p.2)) = ps := List.map_id ps
  rw [hsame] at ht
  exact ht ▸ .object hs

/-- The text of a value that fits and holds no doubles spells it, by induction on how it fits. -/
theorem Fits.spells_write (h : Fits d v) (hf : ¬ HoldsFloat v) : Spells d (write v) v := by
  induction h with
  | null => exact SpellsScalar.null.spells
  | @bool d b =>
    cases b with
    | true => exact SpellsScalar.true.spells
    | false => exact SpellsScalar.false.spells
  | int hl hu =>
    obtain ⟨t, ht, hn⟩ := spellsNumber_signed hl hu
    exact (SpellsScalar.number ht hn).spells
  | float => exact absurd .number hf
  | string => exact (SpellsScalar.string (spellsText_flatMap _)).spells
  | array _ ih =>
    obtain ⟨t, ht, hs⟩ := exists_spellsGroup_array fun v hv => ih v hv (mt (.item hv) hf)
    exact ht ▸ .array hs
  | object _ _ ih => exact spells_object fun m hm => ih m hm (mt (.member hm) hf)

/-! ### Reading back -/

/-- The text of a value that fits and holds no doubles is taken for that value. -/
theorem Fits.takes (h : Fits d v) (hf : ¬ HoldsFloat v) : Takes (value d) (write v) v := by
  have htakes := (readsAt d).complete (h.spells_write hf)
  rwa [h.merged_eq] at htakes

/-- Of a value that its text spells, that text holds what is kept. -/
theorem ofString?_render_of_spells (h : Spells maxDepth (write v) v) :
    Value.ofString? v.render = some v.merged := by
  have hs : SpellsAll (write v) v := by
    have hall := SpellsAll.mk (b := []) (a := []) nofun h nofun
    simpa using hall
  refine ofString?_eq_some_iff.mpr ⟨v, ?_, rfl⟩
  rwa [Value.render, String.toList_ofList]

/-- A value is read back from its text if it fits and holds no doubles. -/
theorem ofString?_render (h : Fits maxDepth v) (hf : ¬ HoldsFloat v) :
    Value.ofString? v.render = some v := by
  rw [ofString?_render_of_spells (h.spells_write hf), h.merged_eq]

/-! ### What a text is written of -/

/-- A text in quotes tells where it ends. -/
theorem writeString_append_inj {s t : String} {a b : List Char}
    (h : writeString s ++ a = writeString t ++ b) : s = t ∧ a = b := by
  have hs := SpellsText.reads (spellsText_flatMap s.toList) (a.map some)
  have ht := SpellsText.reads (spellsText_flatMap t.toList) (b.map some)
  have hsame : (s.toList.flatMap escapeChar).map some ++ some '"' :: a.map some =
      (t.toList.flatMap escapeChar).map some ++ some '"' :: b.map some := by
    simpa [writeString] using congrArg (List.map some) h
  rw [hsame, ht] at hs
  obtain ⟨rfl, hrest⟩ := Prod.mk.inj (Option.some.inj hs)
  exact ⟨rfl, (List.map_inj_right fun _ _ => Option.some.inj).mp hrest.symm⟩

/-- Members that are texts, behind a first one, are told in their order, by induction on them. -/
theorem writeMembers_texts_inj {ps qs : List (String × String)}
    (h : writeMembers (ps.map fun p => (p.1, .string p.2)) =
      writeMembers (qs.map fun q => (q.1, .string q.2))) : ps = qs := by
  induction ps generalizing qs with
  | nil =>
    cases qs with
    | nil => rfl
    | cons q qs => cases (List.cons.inj h).1
  | cons p ps ih =>
    cases qs with
    | nil => cases (List.cons.inj h).1
    | cons q qs =>
      obtain ⟨k, s⟩ := p
      obtain ⟨l, t⟩ := q
      simp only [List.map_cons, writeMembers, write, List.cons_append, List.cons.injEq, true_and,
        List.append_assoc] at h
      obtain ⟨rfl, hvalues⟩ := writeString_append_inj h
      obtain ⟨rfl, hrest⟩ := writeString_append_inj (List.cons.inj hvalues).2
      rw [ih hrest]

/-- An object of texts tells its members in their order. -/
theorem write_texts_inj {ps qs : List (String × String)}
    (h : write (.object (ps.map fun p => (p.1, .string p.2))) =
      write (.object (qs.map fun q => (q.1, .string q.2)))) : ps = qs := by
  cases ps with
  | nil =>
    cases qs with
    | nil => rfl
    | cons q qs => simp [write, writeString] at h
  | cons p ps =>
    cases qs with
    | nil => simp [write, writeString] at h
    | cons q qs =>
      have hbehind := congrArg (fun t => ',' :: t.tail) h
      exact writeMembers_texts_inj (by simpa [write, writeMembers] using hbehind)

/-- Of whatever bytes hold, the same value is kept. -/
theorem Holds.merged_eq {bs : Bytes} {w : Value} (h : Holds bs v) (hw : Holds bs w) :
    v.merged = w.merged :=
  Option.some.inj ((ofBytes?_eq_some_iff.mpr ⟨v, h, rfl⟩).symm.trans
    (ofBytes?_eq_some_iff.mpr ⟨w, hw, rfl⟩))

theorem Holds.fits {bs : Bytes} (h : Holds bs v) : Fits maxDepth v.merged := by
  obtain ⟨text, -, hall⟩ := h
  generalize text.toList = t at hall
  obtain ⟨-, hv, -⟩ := hall
  exact hv.fits

theorem ofBytes?_encode (text : String) :
    Value.ofBytes? (Text.Utf8.encode text) = Value.ofString? text := by
  rw [Value.ofBytes?, Value.ofString?, Text.Utf8.scan_encode]

end CallTransfer.Json
