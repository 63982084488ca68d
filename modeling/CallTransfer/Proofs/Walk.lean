/-!
    Walks. A WALK is a row of steps from one state to another, and the list of the marks that these
    leave. What a step preserves a walk preserves, and a walk whose steps are walks themselves can
    be told in their finer marks.
-/

namespace CallTransfer

/-- Steps in a row, and the marks that they leave. -/
inductive Walk (step : σ → α → σ → Prop) : σ → List α → σ → Prop
  | nil (s : σ) : Walk step s [] s
  | cons {s t u : σ} {a : α} {marks : List α} (first : step s a t) (rest : Walk step t marks u) :
      Walk step s (a :: marks) u

namespace Walk

variable {step : σ → α → σ → Prop} {s t u : σ} {a : α} {marks more : List α}

theorem single (h : step s a t) : Walk step s [a] t := .cons h (.nil t)

theorem append (h : Walk step s marks t) (hmore : Walk step t more u) :
    Walk step s (marks ++ more) u := by
  induction h with
  | nil s => exact hmore
  | cons first _ ih => exact .cons first (ih hmore)

/-- Without a step a walk ends where it starts. -/
theorem eq_of_nil (h : Walk step s [] t) : t = s := by
  cases h
  rfl

/-- A walk ends where its last step does. -/
theorem concat (h : Walk step s marks t) (last : step t a u) : Walk step s (marks ++ [a]) u :=
  h.append (single last)

/-- What every step preserves a walk preserves. -/
theorem preserves (h : Walk step s marks t) (holds : σ → Prop)
    (hstep : ∀ s a t, step s a t → holds s → holds t) (hs : holds s) : holds t := by
  induction h with
  | nil s => exact hs
  | cons first _ ih => exact ih (hstep _ _ _ first hs)

/-- What every step grants of its mark holds of all marks. -/
theorem forall_mem (h : Walk step s marks t) (holds : α → Prop)
    (hstep : ∀ s a t, step s a t → holds a) : ∀ a ∈ marks, holds a := by
  induction h with
  | nil s => exact nofun
  | cons first _ ih => exact List.forall_mem_cons.mpr ⟨hstep _ _ _ first, ih⟩

/-- A walk of other steps, as long and with a mark for each mark. -/
theorem exists_relabelled (h : Walk step s marks t) (stepOf : σ → β → σ → Prop)
    (hstep : ∀ s a t, step s a t → ∃ b, stepOf s b t) :
    ∃ others : List β, others.length = marks.length ∧ Walk stepOf s others t := by
  induction h with
  | nil s => exact ⟨[], rfl, .nil s⟩
  | cons first _ ih =>
    obtain ⟨b, hb⟩ := hstep _ _ _ first
    obtain ⟨others, hlength, hothers⟩ := ih
    exact ⟨b :: others, congrArg (· + 1) hlength, .cons hb hothers⟩

/-- A walk in the finer marks of its steps, on a part of the state. -/
theorem flatMap {finer : τ → β → τ → Prop} {split : α → List β} (h : Walk step s marks t)
    (part : σ → τ)
    (hstep : ∀ s a t, step s a t → Walk finer (part s) (split a) (part t)) :
    Walk finer (part s) (marks.flatMap split) (part t) := by
  induction h with
  | nil s => exact .nil (part s)
  | cons first _ ih =>
    rw [List.flatMap_cons]
    exact (hstep _ _ _ first).append ih

/-- A walk with the same marks, on a part of the state. -/
theorem part {stepOf : τ → α → τ → Prop} (h : Walk step s marks t) (part : σ → τ)
    (hstep : ∀ s a t, step s a t → stepOf (part s) a (part t)) :
    Walk stepOf (part s) marks (part t) := by
  induction h with
  | nil s => exact .nil (part s)
  | cons first _ ih => exact .cons (hstep _ _ _ first) ih

end Walk

end CallTransfer
