import CallTransfer.Halt

/-!
    Stand-ins for a service: a list of prepared results, of which each question takes the next one.
    The questions are kept in order. When the list is used up a stand-in either fails or gives its
    last result again.
-/

namespace CallTransfer

/-- Results that are prepared for questions of type `κ`, and the questions so far. -/
structure Script (κ α : Type) where
  results : List (Except Failure α)
  asked : List κ

namespace Script

/-- A result as an action. -/
def give : Except Failure α → Except Halt α
  | .ok a => .ok a
  | .error failure => .error (.failed failure)

/-- Takes the next result, which is `missing` when there is none left. -/
def take (missing : Failure) (question : κ) : Act (Script κ α) α := fun s =>
  (give (s.results.head?.getD (.error missing)),
    ⟨s.results.tail, s.asked ++ [question]⟩)

/-- Takes the next result, but leaves the last one; `a` is the result where none is prepared. -/
def takeOrRepeat (a : α) (question : κ) : Act (Script κ α) α := fun s =>
  (give (s.results.head?.getD (.ok a)),
    ⟨if s.results.tail.isEmpty then s.results else s.results.tail, s.asked ++ [question]⟩)

end Script

end CallTransfer
