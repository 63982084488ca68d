import CallTransfer.Json.Members
import CallTransfer.Number.Binary64

/-!
    JSON values. Numbers written without fraction or exponent that fit 64 bits, signed or unsigned,
    are integers; all others are double-precision.
-/

namespace CallTransfer.Json

/-- A number. -/
inductive Number where
  | int (n : Int)
  | float (x : Binary64)
  deriving DecidableEq, Repr

/-- A value. -/
inductive Value where
  | null
  | bool (b : Bool)
  | number (n : Number)
  | string (s : String)
  | array (items : List Value)
  | object (members : List (String × Value))
  deriving Repr, Inhabited

namespace Value

/-- The text of a string value. -/
def string? : Value → Option String
  | .string s => some s
  | _ => none

/-- The members of an object value. -/
def object? : Value → Option (Members Value)
  | .object ms => some ms
  | _ => none

theorem string?_eq_some_iff {v : Value} {s : String} : v.string? = some s ↔ v = .string s := by
  cases v <;> simp [string?]

theorem object?_eq_some_iff {v : Value} {ms : Members Value} :
    v.object? = some ms ↔ v = .object ms := by
  cases v <;> simp [object?]

/-- The value under a key of an object value. -/
def get? (v : Value) (k : String) : Option Value := v.object?.bind (·.find? k)

end Value

end CallTransfer.Json
