import CallTransfer.Text.Blank

/-!
    The lines of an environment file. A line end inside quotes or behind a backslash does not end
    the line, a `#` behind a blank starts a comment, and a line that starts with `#` is one
    altogether. A file that ends inside a line is at fault there.
-/

namespace CallTransfer.EnvFile

/-- Where in a line a character stands. -/
inductive Place where
  | plain
  | escape
  | strong
  | strongEscape
  | weak
  | weakEscape
  | blank
  deriving DecidableEq, Repr

namespace Place

/-- The place behind a character outside of quotes. -/
def afterPlain (c : Char) : Place :=
  if c = '\\' then escape else if c = '"' then weak else if c = '\'' then strong else plain

/-- The place behind a character that starts no comment. -/
def next : Place → Char → Place
  | blank, c => afterPlain c
  | escape, _ => plain
  | plain, c => if Text.isBlank c && c ≠ '\n' && c ≠ '\r' then blank else afterPlain c
  | weak, c => if c = '\\' then weakEscape else if c = '"' then plain else weak
  | weakEscape, _ => weak
  | strong, c => if c = '\\' then strongEscape else if c = '\'' then plain else strong
  | strongEscape, _ => strong

end Place

/-- The part of a text before a comment, or the place behind the whole text. -/
def passText (place : Place) : List Char → List Char ⊕ Place
  | [] => .inr place
  | c :: s =>
    if place = .blank ∧ c = '#' then .inl []
    else (passText (place.next c) s).map (c :: ·) id

/-- The physical lines of a text, each with its line end. -/
def physicalLines : List Char → List (List Char)
  | [] => []
  | '\n' :: s => ['\n'] :: physicalLines s
  | c :: s =>
    match physicalLines s with
    | [] => [[c]]
    | l :: ls => (c :: l) :: ls

/-- A line without its line end. -/
def dropLineEnd (s : List Char) : List Char :=
  match s.reverse with
  | '\n' :: '\r' :: r => r.reverse
  | '\n' :: r => r.reverse
  | _ => s

/-- The lines that start with what has been read so far, `none` for a fault. -/
def joinLines (soFar : List Char) (place : Place) : List (List Char) → List (Option (List Char))
  | [] => if place = .plain then [] else [none]
  | l :: ls =>
    let text := soFar ++ l
    if (text.dropWhile Text.isBlank).head? = some '#' then some [] :: joinLines [] .plain ls
    else match passText place l with
      | .inl before => some (soFar ++ before) :: joinLines [] .plain ls
      | .inr .plain => some (dropLineEnd text) :: joinLines [] .plain ls
      | .inr place => joinLines text place ls

/-- The lines of a file. -/
def lines (s : List Char) : List (Option (List Char)) := joinLines [] .plain (physicalLines s)

end CallTransfer.EnvFile
