/-!
    Environment variables. A variable that is set to nothing counts as not set.
-/

namespace CallTransfer

/-- Variables by name. Of equal names the first one counts. -/
structure Environment where
  vars : List (String × String)
  deriving Repr

namespace Environment

/-- What a variable is set to, even if it is nothing. -/
def var? (env : Environment) (name : String) : Option String := env.vars.lookup name

/-- What a variable is set to. -/
def get? (env : Environment) (name : String) : Option String :=
  (env.var? name).filter fun v => v ≠ ""

/-- The environment with one more variable, unless its name is taken. -/
def addMissing (env : Environment) (name value : String) : Environment :=
  match env.var? name with
  | some _ => env
  | none => ⟨env.vars ++ [(name, value)]⟩

end Environment

end CallTransfer
