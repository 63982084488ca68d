import CallTransfer.Settings.EnvFile.Lines
import CallTransfer.Settings.EnvFile.Value

/-!
    Environment files: lines of a name, an equals sign and a value, with `export` in front at
    will. Loading adds the variables that are not set yet, one after the other, and stops at the
    first line that is at fault.
-/

namespace CallTransfer.EnvFile

/-- The name at the front of a text, and the rest. -/
def key? (s : List Char) : Option (List Char × List Char) :=
  let isKeyChar (c : Char) : Bool := c.isAlphanum || c == '_' || c == '.'
  if s.head?.any fun c => c.isAlpha || c == '_' then
    some (s.takeWhile isKeyChar, s.dropWhile isKeyChar)
  else none

/-- A text without blanks in front. -/
def skipBlanks (s : List Char) : List Char := s.dropWhile Text.isBlank

/-- What follows an equals sign. -/
def afterEquals? : List Char → Option (List Char)
  | '=' :: s => some s
  | _ => none

/-- The name that a line sets, and the text of its value. -/
def assignment? (s : List Char) : Option (List Char × List Char) := do
  let (key, s) ← key? s
  let s := skipBlanks s
  match afterEquals? s with
  | some s => return (key, skipBlanks s)
  | none =>
    if key = "export".toList then
      let (key, s) ← key? s
      let s ← afterEquals? (skipBlanks s)
      return (key, skipBlanks s)
    else none

/-- An environment with the variable that a line sets, or nothing if the line is at fault. -/
def loadLine? (env : Environment) (line : List Char) : Option Environment := do
  let s := skipBlanks (Text.dropEndWhile Text.isBlank line)
  if s.isEmpty || s.head? == some '#' then return env
  let (key, text) ← assignment? s
  let value ← if text.isEmpty || text.head? == some '#' then some [] else value? env text
  return env.addMissing (String.ofList key) (String.ofList value)

/-- An environment with what lines set, up to the first fault. -/
def loadLines (env : Environment) : List (Option (List Char)) → Environment
  | [] => env
  | line :: lines =>
    match line.bind (loadLine? env) with
    | some env => loadLines env lines
    | none => env

/-- An environment with what a file sets; a byte order mark in front does not count. -/
def load (env : Environment) (file : String) : Environment :=
  let s := match file.toList with
    | '\uFEFF' :: s => s
    | s => s
  loadLines env (lines s)

end CallTransfer.EnvFile
