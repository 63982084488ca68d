import CallTransfer.Halt

/-!
    Instants, in nanoseconds since the epoch, as far as the calendar reaches: from the first day of
    the year -262143 to the last one of 262142. From outside they are told in milliseconds.
-/

namespace CallTransfer

/-- Nanoseconds since the epoch. -/
abbrev Instant := Int

namespace Instant

/-- The nanoseconds of a second. -/
def second : Int := 1000000000

/-- The nanoseconds of a millisecond. -/
def millisecond : Int := 1000000

/-- The first instant of the calendar. -/
def first : Instant := -8334601228800 * second

/-- The last instant of the calendar. -/
def last : Instant := 8210266876800 * second - 1

/-- Whether the calendar holds an instant. -/
def inCalendar (t : Instant) : Bool := first ≤ t && t ≤ last

/-- The instant so many nanoseconds later. -/
def later (t : Instant) (span : Int) : Except Crash Instant :=
  if inCalendar (t + span) then .ok (t + span) else .error .instant

/-- The whole milliseconds since the epoch. -/
def milliseconds (t : Instant) : Int := t / millisecond

/-- An instant is moved exactly as far as the calendar reaches. -/
theorem later_eq_ok_iff {t u : Instant} {span : Int} :
    t.later span = .ok u ↔ u = t + span ∧ inCalendar u = true := by
  unfold later
  by_cases h : inCalendar (t + span) = true
  · simp only [h, if_true, Except.ok.injEq]
    exact ⟨fun e => ⟨e.symm, e ▸ h⟩, fun e => e.1.symm⟩
  · simp only [h, if_false, false_iff, reduceCtorEq]
    rintro ⟨rfl, e⟩
    exact h e

/-- What leaves the calendar crashes. -/
theorem later_eq_error_iff {t : Instant} {span : Int} {crash : Crash} :
    t.later span = .error crash ↔ crash = .instant ∧ inCalendar (t + span) = false := by
  unfold later
  cases inCalendar (t + span) with
  | true => exact ⟨nofun, nofun⟩
  | false =>
    constructor
    · intro h
      cases h
      exact ⟨rfl, rfl⟩
    · rintro ⟨rfl, -⟩
      rfl

end Instant

end CallTransfer
