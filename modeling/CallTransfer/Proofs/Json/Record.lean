import CallTransfer.Json.Record
import CallTransfer.Proofs.Json.Writing

/-!
    RECORDS are read field by field. Whatever every field keeps holds of a record that is read, in
    either of its forms; and a record that is written as an object is taken for what its fields are
    taken for, one after the other.
-/

namespace CallTransfer.Json

open Text.Utf8 (Scanned)

/-! ### What items keep -/

section Keeps
variable {P : σ → Prop} {item : σ → Reader σ}

/-- Whether an item keeps what holds before it. -/
def Keeps (P : σ → Prop) (item : σ → Reader σ) : Prop :=
  ∀ acc s next rest, P acc → item acc s = some (next, rest) → P next

/-- What an item keeps is kept by any number of them, by induction on the bound on that. -/
theorem Keeps.itemsUpTo {close : Char} (h : Keeps P item) (n : Nat) :
    Keeps P (itemsUpTo close item n) := by
  induction n with
  | zero => exact fun _ _ _ _ _ => nofun
  | succ n ih =>
    intro acc s result rest hacc hread
    simp only [Json.itemsUpTo, Option.bind_eq_bind, Option.bind_eq_some_iff] at hread
    obtain ⟨⟨next, behind⟩, hitem, hread⟩ := hread
    have hnext := h _ _ _ _ hacc hitem
    split at hread
    · split at hread
      · exact ih _ _ _ _ hnext hread
      · split at hread
        · cases hread
          exact hnext
        · cases hread
    · cases hread

theorem Keeps.group (close : Char) (h : Keeps P item) : Keeps P (group close item) := by
  intro acc s result rest hacc hread
  unfold Json.group at hread
  split at hread
  · cases hread
  · split at hread
    · cases hread
      exact hacc
    · exact h.itemsUpTo _ _ _ _ _ hacc hread

theorem Keeps.member {value : String → σ → Reader σ} (h : ∀ key, Keeps P (value key)) :
    Keeps P (member value) := by
  intro acc s result rest hacc hread
  unfold Json.member at hread
  split at hread
  · simp only [Option.bind_eq_bind, Option.bind_eq_some_iff] at hread
    obtain ⟨⟨key, behind⟩, -, hread⟩ := hread
    split at hread
    · exact h key _ _ _ _ hacc hread
    · cases hread
  · cases hread

/-- Members that are read are sorted. -/
theorem sorted_of_members {item : Nat → Reader α} {d : Nat} {s rest : Scanned} {ms : Members α}
    (h : members item d s = some (ms, rest)) : ms.Sorted := by
  unfold members at h
  split at h
  · refine (Keeps.member fun key => ?_).group '\x7d' _ _ _ _ List.Pairwise.nil h
    intro acc s next rest hacc hread
    obtain ⟨⟨v, left⟩, -, he⟩ := Option.map_eq_some_iff.mp hread
    cases he
    exact hacc.insert key v
  · cases h

/-- Members of any kind are those of an object. -/
theorem value_of_members {d : Nat} {s rest : Scanned} {ms : Members Value}
    (h : members value d s = some (ms, rest)) : value d s = some (.object ms, rest) := by
  unfold members at h
  split at h
  · rw [value, h, Option.map_some]
  · cases h

/-- A field that sets one component keeps what setting that keeps. -/
theorem keeps_of {key : String} {read : Nat → Reader α} {get : σ → Option α} {set : α → σ → σ}
    {d : Nat} (h : ∀ acc s a rest, P acc → read d s = some (a, rest) → P (set a acc)) :
    Keeps P ((RecordField.of key read get set).read d) := by
  intro acc s next rest hacc hread
  simp only [RecordField.of] at hread
  split at hread
  · cases hread
  · obtain ⟨⟨a, left⟩, ha, he⟩ := Option.map_eq_some_iff.mp hread
    cases he
    exact h _ _ _ _ hacc ha

/-- What every field keeps holds of a record that is read, whichever form it has. -/
theorem Keeps.record {fields : List (RecordField σ)} {start acc : σ} {d : Nat} {s rest : Scanned}
    (h : ∀ f ∈ fields, Keeps P (f.read d)) (hstart : P start)
    (hread : record fields start (d + 1) s = some (acc, rest)) : P acc := by
  unfold Json.record at hread
  split at hread
  · rename_i hd
    cases hd
    refine (Keeps.member fun key => ?_).group '\x7d' _ _ _ _ hstart hread
    intro acc s next rest hacc hitem
    split at hitem
    · rename_i f hf
      exact h f (List.mem_of_find?_eq_some hf) _ _ _ _ hacc hitem
    · obtain ⟨_, -, he⟩ := Option.map_eq_some_iff.mp hitem
      cases he
      exact hacc
  · rename_i hd
    cases hd
    obtain ⟨⟨⟨last, left⟩, behind⟩, hgroup, he⟩ := Option.map_eq_some_iff.mp hread
    cases he
    -- the fields that are still to come are among all fields
    have hkeeps : P acc ∧ ∀ f ∈ left, f ∈ fields := by
      refine Keeps.group (P := fun acc => P acc.1 ∧ ∀ f ∈ acc.2, f ∈ fields) ']' ?_ _ _ _ _
        ⟨hstart, fun _ hf => hf⟩ hgroup
      rintro ⟨acc, left⟩ s next rest ⟨hacc, hleft⟩ hitem
      cases left with
      | nil => cases hitem
      | cons f left =>
        obtain ⟨⟨b, behind⟩, hf, he⟩ := Option.map_eq_some_iff.mp hitem
        cases he
        obtain ⟨hmem, hleft⟩ := List.forall_mem_cons.mp hleft
        exact ⟨h f hmem _ _ _ _ hacc hf, hleft⟩
    exact hkeeps.1
  · cases hread

end Keeps

/-! ### What is written is taken -/

section Takes
variable {item : Nat → Reader α} {d : Nat}

theorem takes_text (d : Nat) (text : String) : Takes (textReader d) (writeString text) text where
  starts := ⟨'"', _, rfl, by decide⟩
  reads rest _ := by
    have hread := SpellsText.reads (spellsText_flatMap text.toList) rest
    simpa [writeString, textReader] using hread

/-- A text is taken where there may be none. -/
theorem takes_optional (d : Nat) (text : String) :
    Takes (optional textReader d) (writeString text) (some text) where
  starts := (takes_text d text).starts
  reads rest hr := by
    have hread := (takes_text d text).reads rest hr
    simp only [writeString, List.cons_append, List.map_cons] at hread ⊢
    rw [optional, hread, Option.map_some]
    rintro _ ⟨⟩

/-- Members that are written are taken for those that they make; `embed` tells what is written for
    a value. -/
theorem takes_members (embed : α → Value) {ps : List (String × α)}
    (h : ∀ p ∈ ps, Takes (item d) (write (embed p.2)) p.2) :
    Takes (members item (d + 1)) (write (.object (ps.map fun p => (p.1, embed p.2))))
      (Members.ofList ps) := by
  obtain ⟨t, ht, hs⟩ := exists_spellsGroup_object embed h
  refine ⟨⟨_, t, ht, by decide⟩, fun rest _ => ?_⟩
  have hcomplete (key : String) : IsComplete _ (Takes (item d)) fun ms v =>
      Members.insert key v ms :=
    fun _ _ htakes ms => htakes.map (Members.insert key · ms)
  rw [ht, List.map_cons, List.cons_append, members]
  exact (IsComplete.member hcomplete).group (Or.inr rfl) hs [] rest

/-- Members of any kind that fit are taken as they are, if there are no doubles in them. -/
theorem Fits.takes_members {ms : Members Value} (h : Fits (d + 1) (.object ms))
    (hf : ¬ HoldsFloat (.object ms)) : Takes (members value (d + 1)) (write (.object ms)) ms := by
  obtain ⟨hs, hfits⟩ := h.object?
  have htakes := Json.takes_members id fun m hm => (hfits m hm).takes (mt (.member hm) hf)
  have hsame : ms.map (fun m => (m.1, id m.2)) = ms := List.map_id ms
  rwa [hsame, hs.ofList_eq] at htakes

/-- A field that is not known yet is taken as what it is read by. -/
theorem Takes.field {key : String} {get : σ → Option α} {set : α → σ → σ} {acc : σ} {t : List Char}
    {a : α} (h : Takes (item d) t a) (hnone : get acc = none) :
    Takes ((RecordField.of key item get set).read d acc) t (set a acc) := by
  simp only [RecordField.of, hnone]
  exact h.map (set · acc)

/-- Whether the values of members are taken one after the other, each for its key. -/
inductive TakesMembers (read : String → σ → Reader σ) : σ → Members Value → σ → Prop
  | nil : TakesMembers read acc [] acc
  | cons (h : Takes (read m.1 acc) (write m.2) next) (hs : TakesMembers read next ms result) :
      TakesMembers read acc (m :: ms) result

variable {read : String → σ → Reader σ} {acc next result : σ} {ms : Members Value}

/-- The text of a member is taken as that of its value is. -/
theorem Takes.writeMember {m : String × Value} (h : Takes (read m.1 acc) (write m.2) next) :
    Takes (Json.member read acc) (Json.writeMember m) next := by
  have htakes := h.member (b := []) (a := []) (spellsText_flatMap m.1.toList) nofun nofun
  simpa [Json.writeMember, writeString] using htakes

/-- Members that are taken one after the other are a row, by induction on those behind the first. -/
theorem TakesMembers.row {m : String × Value} (h : Takes (read m.1 acc) (write m.2) next)
    (hs : TakesMembers read next ms result) :
    Row (member read) '\x7d' acc (writeMember m ++ writeMembers ms) result := by
  induction hs generalizing m acc with
  | nil =>
    have hrow : Row (member read) '\x7d' acc ([] ++ writeMember m ++ [] ++ ['\x7d']) _ :=
      .last nofun h.writeMember nofun
    simpa [writeMembers] using hrow
  | cons hn _ ih =>
    have hrow := Row.cons (b := []) (a := []) nofun h.writeMember nofun (ih hn)
    simpa [writeMembers_eq] using hrow

/-- An object is read as its members are taken one after the other. -/
theorem TakesMembers.group (h : TakesMembers read acc ms result) :
    ∃ t, write (.object ms) = '\x7b' :: t ∧
      ∀ rest, group '\x7d' (member read) acc (t.map some ++ rest) = some (result, rest) := by
  cases h with
  | nil => exact ⟨_, rfl, group_empty (Or.inr rfl) (b := []) nofun acc⟩
  | @cons m _ next ms _ h hs =>
    refine ⟨writeMember m ++ writeMembers ms, ?_, (row h hs).group (Or.inr rfl)⟩
    simp [write, writeMember]

/-- How a record reads a member. -/
def recordMember (fields : List (RecordField σ)) (d : Nat) (key : String) (acc : σ) : Reader σ :=
  fun s => match fields.find? (·.key == key) with
  | some f => f.read d acc s
  | none => (skip s).map fun (_, s) => (acc, s)

theorem Takes.recordMember {fields : List (RecordField σ)} {f : RecordField σ} {key : String}
    {t : List Char} (h : Takes (f.read d acc) t next)
    (hf : fields.find? (·.key == key) = some f) :
    Takes (recordMember fields d key acc) t next := by
  unfold Json.recordMember
  simp only [hf]
  exact h

/-- A record that is written as an object is taken as its members are one after the other. -/
theorem TakesMembers.record {fields : List (RecordField σ)}
    (h : TakesMembers (recordMember fields d) acc ms result) :
    Takes (record fields acc (d + 1)) (write (.object ms)) result := by
  obtain ⟨t, ht, hread⟩ := h.group
  refine ⟨⟨_, t, ht, by decide⟩, fun rest _ => ?_⟩
  rw [ht, List.map_cons, List.cons_append]
  exact hread rest

end Takes

end CallTransfer.Json
