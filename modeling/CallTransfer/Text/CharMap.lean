import CallTransfer.Text.CharSet

/-!
    Maps on characters given by runs of code points, as standards list them. `C0-DE>E0` maps each
    character from C0 to DE to the one as far behind E0 as it is behind C0, `100-12E/>101` does so
    for every second one, and `DF>73.73` maps one character to a text.
-/

namespace CallTransfer.Text

/-- A run of characters and the images of the first one. -/
structure MapRun where
  low : Nat
  high : Nat
  step : Nat
  images : List Nat

/-- A partial map on characters. -/
structure CharMap where
  runs : Array MapRun

namespace CharMap

/-- One run. -/
def runOf (s : List Char) : MapRun :=
  let source := s.takeWhile (· ≠ '>')
  let images := (fields '.' (s.drop (source.length + 1))).map CharSet.hexValue
  let (low, high) := CharSet.rangeOf (source.filter (· ≠ '/'))
  ⟨low, high, if source.contains '/' then 2 else 1, images⟩

/-- The map of a list of runs. -/
def ofText (text : String) : CharMap where
  runs := (((fields ' ' text.toList).filter (!·.isEmpty)).map runOf).toArray

/-- Whether a run has an image for a code point. -/
def covers (r : MapRun) (n : Nat) : Bool :=
  r.low ≤ n && n ≤ r.high && (n - r.low) % r.step == 0

/-- The text that a character is mapped to. -/
def find? (m : CharMap) (c : Char) : Option (List Char) :=
  (m.runs.find? (covers · c.toNat)).map fun r =>
    r.images.map fun i => Char.ofNat (i + (c.toNat - r.low))

/-! ### Checking a table part by part -/

/-- The runs in a text. -/
def runsOf (s : List Char) : List MapRun := ((fields ' ' s).filter (!·.isEmpty)).map runOf

/-- Whether a part of a table ends between two runs, and all of its runs pass a check. -/
def lists (check : MapRun → Bool) (part : List Char) : Bool :=
  part.getLast? == some ' ' && (runsOf part).all check

theorem runsOf_append (s t : List Char) : runsOf (s ++ ' ' :: t) = runsOf s ++ runsOf t := by
  rw [runsOf, fields_append_cons, List.filter_append, List.map_append]
  rfl

theorem lists_append {check : MapRun → Bool} {s t : List Char} (hs : lists check s = true)
    (ht : (runsOf t).all check = true) : (runsOf (s ++ t)).all check = true := by
  obtain ⟨he, hr⟩ := Bool.and_eq_true_iff.mp hs
  obtain ⟨s, rfl⟩ := List.getLast?_eq_some_iff.mp (beq_iff_eq.mp he)
  rw [runsOf_append] at hr
  rw [List.append_assoc, List.singleton_append, runsOf_append, List.all_append, ht, Bool.and_true]
  rw [List.all_append] at hr
  exact (Bool.and_eq_true_iff.mp hr).1

/-- A table is checked part by part. -/
theorem forall_runs_ofText_join {check : MapRun → Bool} {parts : List String}
    (h : ∀ part ∈ parts, lists check part.toList = true) :
    ∀ run ∈ (ofText (String.join parts)).runs, check run = true := by
  have hall : (runsOf (parts.flatMap String.toList)).all check = true := by
    induction parts with
    | nil => rfl
    | cons part parts ih =>
      rw [List.flatMap_cons]
      exact lists_append (h part List.mem_cons_self)
        (ih fun p hp => h p (List.mem_cons_of_mem _ hp))
  intro run hr
  rw [← String.toList_join] at hall
  exact List.all_eq_true.mp hall run (List.mem_toArray.mp hr)

end CharMap

end CallTransfer.Text
