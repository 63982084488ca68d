import CallTransfer.Halt

/-!
    Two runs side by side. Which states look the same from outside is a relation, and so is which
    values do. Two actions are ALIKE if from states that look the same they come to the same halt or
    to values that look the same, and leave states that look the same behind.
-/

namespace CallTransfer.Act

/-- Results that look the same: two values that do, or one halt. -/
inductive Agree (related : α → α → Prop) : Except Halt α → Except Halt α → Prop
  | ok {a b : α} (h : related a b) : Agree related (.ok a) (.ok b)
  | error (halt : Halt) : Agree related (.error halt) (.error halt)

/-- Actions that look the same from outside. -/
def Alike (same : σ → σ → Prop) (related : α → α → Prop) (act other : Act σ α) : Prop :=
  ∀ s t, same s t → Agree related (act s).1 (other t).1 ∧ same (act s).2 (other t).2

variable {same : σ → σ → Prop} {related : α → α → Prop} {relatedAfter : β → β → Prop}

/-- Actions in a row are alike if they are one by one. -/
theorem Alike.bind {act other : Act σ α} {next otherNext : α → Act σ β}
    (h : Alike same related act other)
    (hnext : ∀ a b, related a b → Alike same relatedAfter (next a) (otherNext b)) :
    Alike same relatedAfter (act >>= next) (other >>= otherNext) := by
  intro s t hs
  obtain ⟨hr, hs⟩ := h s t hs
  rw [run_bind, run_bind]
  generalize (act s).1 = result at hr ⊢
  generalize (other t).1 = otherResult at hr ⊢
  cases hr with
  | ok hab => exact hnext _ _ hab _ _ hs
  | error halt => exact ⟨.error halt, hs⟩

/-- Alike actions are alike in other words. -/
theorem Alike.rewording {act other : Act σ α} (h : Alike same related act other)
    (reword : Failure → Failure) :
    Alike same related (rewording reword act) (rewording reword other) := by
  intro s t hs
  obtain ⟨hr, hs⟩ := h s t hs
  rcases ha : act s with ⟨result, u⟩
  rcases ho : other t with ⟨otherResult, v⟩
  rw [ha, ho] at hr hs
  simp only [Act.rewording, ha, ho]
  cases hr with
  | ok hab => exact ⟨.ok hab, hs⟩
  | error halt =>
    cases halt with
    | failed failure => exact ⟨.error _, hs⟩
    | crashed crash => exact ⟨.error _, hs⟩

/-- Actions that are alike on a part of a state are alike on the whole of it. -/
theorem Alike.zoom {samePart : τ → τ → Prop} {get : σ → τ} {set : τ → σ → σ} {act other : Act τ α}
    (h : Alike samePart related act other) (hget : ∀ s t, same s t → samePart (get s) (get t))
    (hset : ∀ s t p q, same s t → samePart p q → same (set p s) (set q t)) :
    Alike same related (zoom get set act) (zoom get set other) := by
  intro s t hs
  obtain ⟨hr, hp⟩ := h (get s) (get t) (hget s t hs)
  exact ⟨hr, hset s t _ _ hs hp⟩

end CallTransfer.Act
