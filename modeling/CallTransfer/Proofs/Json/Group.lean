import CallTransfer.Proofs.Json.Number
import CallTransfer.Proofs.Json.Quoted

/-!
    GROUPS are read item by item. If what is taken off the front of a text for one item spells that,
    then so it is with the items of a group, and if what spells an item is taken for it, whatever
    stands behind that does not go on with it, then a row of items is taken whole.
-/

namespace CallTransfer.Json

open Text.Utf8 (Scanned)

/-! ### Blanks -/

theorem isBlank_iff {c : Char} : isBlank (some c) = true ↔ c ∈ [' ', '\t', '\n', '\r'] := by
  simp [isBlank, or_assoc]

theorem exists_blank (s : Scanned) : ∃ b, Blank b ∧ s = b.map some ++ skipBlanks s := by
  induction s with
  | nil => exact ⟨[], nofun, rfl⟩
  | cons o s ih =>
    by_cases ho : isBlank o = true
    · rw [skipBlanks, List.dropWhile_cons_of_pos ho]
      obtain ⟨b, hb, hs⟩ := ih
      cases o with
      | none => cases ho
      | some c =>
        exact ⟨c :: b, List.forall_mem_cons.mpr ⟨isBlank_iff.mp ho, hb⟩, congrArg (some c :: ·) hs⟩
    · rw [skipBlanks, List.dropWhile_cons_of_neg ho]
      exact ⟨[], nofun, rfl⟩

theorem skipBlanks_append {b : List Char} (hb : Blank b) (s : Scanned) :
    skipBlanks (b.map some ++ s) = skipBlanks s := by
  induction b with
  | nil => rfl
  | cons c b ih =>
    obtain ⟨hc, hb⟩ := List.forall_mem_cons.mp hb
    rw [List.map_cons, List.cons_append, skipBlanks,
      List.dropWhile_cons_of_pos (isBlank_iff.mpr hc)]
    exact ih hb

theorem skipBlanks_cons {c : Char} (hc : c ∉ [' ', '\t', '\n', '\r']) (s : Scanned) :
    skipBlanks (some c :: s) = some c :: s :=
  List.dropWhile_cons_of_neg (mt isBlank_iff.mp hc)

/-- Blanks do not go on with a number. -/
theorem stops_append {b : List Char} (hb : Blank b) {s : Scanned} (hs : Stops s) :
    Stops (b.map some ++ s) := by
  cases b with
  | nil => exact hs
  | cons c b =>
    have hall : ∀ c ∈ [' ', '\t', '\n', '\r'], goesOn c = false := Text.forall_of_all (by decide)
    exact stops_cons (hall c (hb c List.mem_cons_self)) _

/-! ### Items -/

/-- The characters that a value or a member starts with. -/
def openers : List Char := "\"ntf-0123456789[\x7b".toList

/-- Whether a reader takes a text for a value, whatever stands behind that does not go on with it;
    the text starts as values and members do. -/
structure Takes (r : Reader α) (t : List Char) (a : α) : Prop where
  starts : ∃ c rest, t = c :: rest ∧ c ∈ openers
  reads : ∀ rest, Stops rest → r (t.map some ++ rest) = some (a, rest)

theorem Takes.skipBlanks {r : Reader α} {t : List Char} {a : α} (h : Takes r t a) (s : Scanned) :
    skipBlanks (t.map some ++ s) = t.map some ++ s := by
  obtain ⟨⟨c, rest, rfl, hc⟩, -⟩ := h
  have hall : ∀ c ∈ openers, c ∉ [' ', '\t', '\n', '\r'] := Text.forall_of_all (by decide)
  exact skipBlanks_cons (hall c hc) _

/-- Whatever is made of what is taken, the text is taken for it. -/
theorem Takes.map {r : Reader α} {t : List Char} {a : α} (h : Takes r t a) (f : α → β) :
    Takes (fun s => (r s).map fun (a, s) => (f a, s)) t (f a) := by
  refine ⟨h.starts, fun rest hr => ?_⟩
  simp only [h.reads rest hr, Option.map_some]

section Group
variable {item : σ → Reader σ} {close : Char} {Item : List Char → α → Prop} {add : σ → α → σ}

/-- Whether what is taken off the front of a text for an item spells one, which is added. -/
def IsSound (item : σ → Reader σ) (Item : List Char → α → Prop) (add : σ → α → σ) : Prop :=
  ∀ acc s next rest, item acc s = some (next, rest) →
    ∃ t x, s = t.map some ++ rest ∧ Item t x ∧ next = add acc x

/-- Whether what spells an item is taken for it, and it is added. -/
def IsComplete (item : σ → Reader σ) (Item : List Char → α → Prop) (add : σ → α → σ) : Prop :=
  ∀ t x, Item t x → ∀ acc, Takes (item acc) t (add acc x)

/-- A row of items that are taken one after the other, up to the closing bracket. -/
inductive Row (item : σ → Reader σ) (close : Char) : σ → List Char → σ → Prop
  | last (hb : Blank b) (ht : Takes (item acc) t result) (ha : Blank a) :
      Row item close acc (b ++ t ++ a ++ [close]) result
  | cons (hb : Blank b) (ht : Takes (item acc) t next) (ha : Blank a)
      (h : Row item close next ts result) : Row item close acc (b ++ t ++ a ++ ',' :: ts) result

/-- A closing bracket goes on with no number, and is neither blank nor a comma nor an opener. -/
theorem closing_facts (hclose : close = ']' ∨ close = '\x7d') :
    goesOn close = false ∧ close ∉ [' ', '\t', '\n', '\r'] ∧ close ≠ ',' ∧ close ∉ openers := by
  rcases hclose with rfl | rfl <;> decide

/-- One item is read, and what stands behind it is what is left behind its blanks. -/
theorem itemsUpTo_succ {acc next : σ} {b t a : List Char} (hb : Blank b)
    (ht : Takes (item acc) t next) (ha : Blank a) {c : Char} (hc : goesOn c = false)
    (hn : c ∉ [' ', '\t', '\n', '\r']) (rest : Scanned) (n : Nat) :
    itemsUpTo close item (n + 1) acc
        (b.map some ++ (t.map some ++ (a.map some ++ some c :: rest))) =
      if c = ',' then itemsUpTo close item n next rest
      else if c = close then some (next, rest) else none := by
  rw [itemsUpTo, skipBlanks_append hb, ht.skipBlanks,
    ht.reads _ (stops_append ha (stops_cons hc rest))]
  simp only [Option.bind_eq_bind, Option.bind_some, skipBlanks_append ha, skipBlanks_cons hn]

/-- A row of items is read whole, by induction on it. -/
theorem Row.itemsUpTo (hclose : close = ']' ∨ close = '\x7d') {acc result : σ} {t : List Char}
    (h : Row item close acc t result) {n : Nat} (hn : t.length ≤ n) (rest : Scanned) :
    itemsUpTo close item n acc (t.map some ++ rest) = some (result, rest) := by
  obtain ⟨hgo, hblank, hcomma, -⟩ := closing_facts hclose
  induction h generalizing n with
  | last hb ht ha =>
    cases n with
    | zero => simp at hn
    | succ n =>
      simp only [List.map_append, List.map_cons, List.map_nil, List.append_assoc, List.cons_append,
        List.nil_append]
      rw [itemsUpTo_succ hb ht ha hgo hblank, if_neg hcomma, if_pos rfl]
  | cons hb ht ha _ ih =>
    cases n with
    | zero => simp at hn
    | succ n =>
      simp only [List.map_append, List.map_cons, List.append_assoc, List.cons_append]
      rw [itemsUpTo_succ hb ht ha (by decide) (by decide), if_pos rfl]
      refine ih ?_
      simp only [List.length_append, List.length_cons] at hn
      omega

/-- A group of no items is read, and leaves everything as it is. -/
theorem group_empty (hclose : close = ']' ∨ close = '\x7d') {b : List Char} (hb : Blank b)
    (acc : σ) (rest : Scanned) :
    group close item acc ((b ++ [close]).map some ++ rest) = some (acc, rest) := by
  obtain ⟨-, hblank, -⟩ := closing_facts hclose
  simp only [List.map_append, List.append_assoc]
  rw [group, skipBlanks_append hb]
  simp only [List.map_cons, List.map_nil, List.cons_append, List.nil_append,
    skipBlanks_cons hblank, if_true]

/-- Behind its blanks, a row starts with the first item. -/
theorem Row.exists_blank {acc result : σ} {t : List Char} (h : Row item close acc t result) :
    ∃ b c u, Blank b ∧ t = b ++ c :: u ∧ c ∈ openers ∧ Row item close acc (c :: u) result := by
  cases h with
  | @last b _ t _ a hb ht ha =>
    obtain ⟨c, u, rfl, hc⟩ := ht.starts
    exact ⟨b, c, u ++ a ++ [close], hb, by simp, hc, .last (b := []) nofun ht ha⟩
  | @cons b _ t _ a ts _ hb ht ha h =>
    obtain ⟨c, u, rfl, hc⟩ := ht.starts
    exact ⟨b, c, u ++ a ++ ',' :: ts, hb, by simp, hc, .cons (b := []) nofun ht ha h⟩

/-- A group of items is read as their row is. -/
theorem Row.group (hclose : close = ']' ∨ close = '\x7d') {acc result : σ} {t : List Char}
    (h : Row item close acc t result) (rest : Scanned) :
    group close item acc (t.map some ++ rest) = some (result, rest) := by
  obtain ⟨b, c, u, hb, rfl, hc, hrow⟩ := h.exists_blank
  have hblank : ∀ c ∈ openers, c ∉ [' ', '\t', '\n', '\r'] := Text.forall_of_all (by decide)
  have hne : some c ≠ some close := by
    rintro ⟨⟩
    exact (closing_facts hclose).2.2.2 hc
  have hread := hrow.itemsUpTo hclose (n := (u.map some ++ rest).length + 1) (by simp) rest
  simp only [List.map_append, List.map_cons, List.append_assoc, List.cons_append] at hread ⊢
  rw [Json.group, skipBlanks_append hb, skipBlanks_cons (hblank c hc)]
  simp only [if_neg hne, hread]

/-- What is taken off the front of a text by a loop over items spells them. -/
theorem IsSound.itemsUpTo (h : IsSound item Item add) {n : Nat} {acc result : σ} {s rest : Scanned}
    (hread : itemsUpTo close item n acc s = some (result, rest)) :
    ∃ t xs, s = t.map some ++ rest ∧ SpellsItems close Item t xs ∧ result = xs.foldl add acc := by
  induction n generalizing acc s with
  | zero => cases hread
  | succ n ih =>
    obtain ⟨b, hb, hs⟩ := Json.exists_blank s
    simp only [Json.itemsUpTo, Option.bind_eq_bind, Option.bind_eq_some_iff] at hread
    obtain ⟨⟨next, behind⟩, hitem, hread⟩ := hread
    obtain ⟨t, x, ht, hx, rfl⟩ := h _ _ _ _ hitem
    obtain ⟨a, ha, hbehind⟩ := Json.exists_blank behind
    split at hread
    · rename_i c left hc
      rw [hc] at hbehind
      split at hread
      · rename_i hcomma
        obtain ⟨ts, xs, rfl, hts, rfl⟩ := ih hread
        refine ⟨b ++ t ++ a ++ ',' :: ts, x :: xs, ?_, .cons hb hx ha hts, rfl⟩
        rw [hs, ht, hbehind, hcomma]
        simp
      · split at hread
        · rename_i hclose
          cases hread
          refine ⟨b ++ t ++ a ++ [close], [x], ?_, .last hb hx ha, rfl⟩
          rw [hs, ht, hbehind, hclose]
          simp
        · cases hread
    · cases hread

/-- More blanks in front of items are blanks in front of them. -/
theorem SpellsItems.blank_append {t b : List Char} {xs : List α}
    (h : SpellsItems close Item t xs) (hb : Blank b) : SpellsItems close Item (b ++ t) xs := by
  have happend {b' : List Char} (hb' : Blank b') : Blank (b ++ b') :=
    fun c hc => (List.mem_append.mp hc).elim (hb c) (hb' c)
  cases h with
  | last hb' hx ha => simpa using SpellsItems.last (happend hb') hx ha
  | cons hb' hx ha h => simpa using SpellsItems.cons (happend hb') hx ha h

/-- What is taken off the front of a text as a group spells one. -/
theorem IsSound.group (h : IsSound item Item add) {acc result : σ} {s rest : Scanned}
    (hread : group close item acc s = some (result, rest)) :
    ∃ t xs, s = t.map some ++ rest ∧ SpellsGroup close Item t xs ∧ result = xs.foldl add acc := by
  obtain ⟨b, hb, hs⟩ := Json.exists_blank s
  unfold Json.group at hread
  split at hread
  · cases hread
  · rename_i c left hc
    rw [hc] at hs
    split at hread
    · rename_i hclose
      cases hread
      refine ⟨b ++ [close], [], ?_, .empty hb, rfl⟩
      rw [hs, hclose]
      simp
    · obtain ⟨t, xs, ht, hxs, rfl⟩ := h.itemsUpTo hread
      refine ⟨b ++ t, xs, ?_, .items (hxs.blank_append hb), rfl⟩
      rw [hs, ht]
      simp

/-- What spells items is a row of them. -/
theorem IsComplete.row (h : IsComplete item Item add) {t : List Char} {xs : List α}
    (hs : SpellsItems close Item t xs) (acc : σ) : Row item close acc t (xs.foldl add acc) := by
  induction hs generalizing acc with
  | last hb hx ha => exact .last hb (h _ _ hx acc) ha
  | cons hb hx ha _ ih => exact .cons hb (h _ _ hx acc) ha (ih _)

/-- What spells a group is read as one. -/
theorem IsComplete.group (h : IsComplete item Item add) (hclose : close = ']' ∨ close = '\x7d')
    {t : List Char} {xs : List α} (hs : SpellsGroup close Item t xs) (acc : σ) (rest : Scanned) :
    Json.group close item acc (t.map some ++ rest) = some (xs.foldl add acc, rest) := by
  cases hs with
  | empty hb => exact group_empty hclose hb acc rest
  | items hs => exact (h.row hs acc).group hclose rest

/-! ### Members -/

/-- What is taken off the front of a text as a member spells a pair. -/
theorem IsSound.member {value : String → σ → Reader σ} {add : String → σ → α → σ}
    (h : ∀ key, IsSound (value key) Item (add key)) :
    IsSound (Json.member value) (SpellsPair Item) fun acc p => add p.1 acc p.2 := by
  intro acc s next rest hread
  unfold Json.member at hread
  split at hread
  · rename_i s
    simp only [Option.bind_eq_bind, Option.bind_eq_some_iff] at hread
    obtain ⟨⟨key, behind⟩, hkey, hread⟩ := hread
    obtain ⟨k, rfl, hk⟩ := stringReader_eq_some_iff.mp hkey
    obtain ⟨b, hb, hbehind⟩ := Json.exists_blank behind
    split at hread
    · rename_i left hleft
      rw [hleft] at hbehind
      obtain ⟨a, ha, hs⟩ := Json.exists_blank left
      obtain ⟨t, x, ht, hx, rfl⟩ := h key _ _ _ _ hread
      refine ⟨'"' :: k ++ '"' :: b ++ ':' :: a ++ t, (key, x), ?_, .mk hk hb ha hx, rfl⟩
      rw [hbehind, hs, ht]
      simp
    · cases hread
  · cases hread

/-- A member is taken as its value is, behind a key. -/
theorem Takes.member {value : String → σ → Reader σ} {key : String} {acc next : σ}
    {k b a t : List Char} (h : Takes (value key acc) t next) (hk : SpellsText k key.toList)
    (hb : Blank b) (ha : Blank a) :
    Takes (Json.member value acc) ('"' :: k ++ '"' :: b ++ ':' :: a ++ t) next := by
  refine ⟨⟨'"', _, rfl, by decide⟩, fun rest hr => ?_⟩
  simp only [List.map_append, List.map_cons, List.append_assoc, List.cons_append]
  rw [Json.member, hk.reads]
  simp only [Option.bind_eq_bind, Option.bind_some]
  rw [skipBlanks_append hb, skipBlanks_cons (by decide)]
  simp only [skipBlanks_append ha, h.skipBlanks, h.reads rest hr]

/-- What spells a pair is taken for a member. -/
theorem IsComplete.member {value : String → σ → Reader σ} {add : String → σ → α → σ}
    (h : ∀ key, IsComplete (value key) Item (add key)) :
    IsComplete (Json.member value) (SpellsPair Item) fun acc p => add p.1 acc p.2 := by
  rintro _ _ ⟨hk, hb, ha, hx⟩ acc
  exact (h _ _ _ hx acc).member hk hb ha

end Group

end CallTransfer.Json
