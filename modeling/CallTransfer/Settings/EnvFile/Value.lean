import CallTransfer.Settings.Environment
import CallTransfer.Text.Alphanumeric

/-!
    Values in an environment file. Strong quotes keep everything, weak quotes let backslashes and
    substitutions through, and a value without quotes ends at a blank, behind which only a comment
    may follow. A dollar sign, with a name or with any text in braces, stands for a variable.
-/

namespace CallTransfer.EnvFile

/-- How a character of a value is read. -/
inductive Mode where
  | bare
  | weak
  | strong
  | ended
  | comment
  deriving DecidableEq, Repr

/-- The name of a variable that is being read. -/
structure Reference where
  inBraces : Bool
  name : List Char
  deriving Repr

/-- How far a value has been read. -/
structure ValueSoFar where
  mode : Mode
  escaped : Bool
  reference : Option Reference
  output : List Char
  deriving Repr

namespace ValueSoFar

/-- Before the first character. -/
def start : ValueSoFar := ⟨.bare, false, none, []⟩

/-- What a reference stands for. -/
def lookup (env : Environment) (name : List Char) : List Char :=
  ((env.var? (String.ofList name)).getD "").toList

/-- A value with one more character. -/
def push (v : ValueSoFar) (c : Char) : ValueSoFar := { v with output := v.output ++ [c] }

/-- What a character behind a backslash stands for. -/
def unescape? (c : Char) : Option Char :=
  if "\\'\"$ ".toList.contains c then some c else if c = 'n' then some '\n' else none

/-- Puts the variable in the place of its name. -/
def resolve (env : Environment) (v : ValueSoFar) (r : Reference) : ValueSoFar :=
  { v with output := v.output ++ lookup env r.name, reference := none }

/-- A character behind a dollar sign. -/
def nextOfReference (env : Environment) (v : ValueSoFar) (r : Reference) (c : Char) :
    ValueSoFar :=
  let longer := { v with reference := some { r with name := r.name ++ [c] } }
  if Text.isAlphanumeric c then longer
  else if r.inBraces then if c = '\x7d' then v.resolve env r else longer
  else if c = '\x7b' ∧ r.name = [] then { v with reference := some ⟨true, []⟩ }
  else if c = '$' then { v.resolve env r with reference := some ⟨false, []⟩ }
  else (v.resolve env r).push c

/-- A character that stands by itself. -/
def nextPlain (v : ValueSoFar) (c : Char) : ValueSoFar :=
  if c = '$' then { v with reference := some ⟨false, []⟩ }
  else if c = '\\' then { v with escaped := true }
  else if v.mode = .weak then if c = '"' then { v with mode := .bare } else v.push c
  else if c = '\'' then { v with mode := .strong }
  else if c = '"' then { v with mode := .weak }
  else if c = ' ' ∨ c = '\t' then { v with mode := .ended }
  else v.push c

/-- Reads one character. -/
def next (env : Environment) (v : ValueSoFar) (c : Char) : Option ValueSoFar :=
  match v.mode with
  | .comment => some v
  | .ended =>
    if c = ' ' ∨ c = '\t' then some v
    else if c = '#' then some { v with mode := .comment }
    else none
  | _ =>
    if v.escaped then (unescape? c).map fun c => { v.push c with escaped := false }
    else if v.mode = .strong then
      some (if c = '\'' then { v with mode := .bare } else v.push c)
    else match v.reference with
      | some r => some (v.nextOfReference env r c)
      | none => some (v.nextPlain c)

/-- The value, if nothing is left open. -/
def finish? (env : Environment) (v : ValueSoFar) : Option (List Char) :=
  if v.mode = .weak ∨ v.mode = .strong then none
  else match v.reference with
    | none => some v.output
    | some r => if r.inBraces then none else some (v.resolve env r).output

end ValueSoFar

/-- The value that a text denotes. -/
def value? (env : Environment) (s : List Char) : Option (List Char) := do
  (← s.foldlM (ValueSoFar.next env) ValueSoFar.start).finish? env

end CallTransfer.EnvFile
