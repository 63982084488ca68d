import CallTransfer.Json.Reader

/-!
    Records: objects with known members, or arrays of the same members in a fixed order. A known
    member may stand once, unknown members are skipped, missing ones take their default, and an
    array may be too short but not too long. Skipped text is held to the grammar alone: it may nest
    without limit, and its numbers and strings need not denote anything.
-/

namespace CallTransfer.Json

open Text.Utf8 (Scanned)

/-- A scalar by its grammar alone. -/
def skipScalar : Reader Unit
  | some 'n' :: s => word "ull" s
  | some 't' :: s => word "rue" s
  | some 'f' :: s => word "alse" s
  | some '"' :: s => (pieces s).map fun (_, s) => ((), s)
  | s => (numberText s).map fun (_, s) => ((), s)

/-- A value by its grammar alone, nesting at most to the given depth. -/
def skipValue : Nat → Reader Unit
  | 0, s => skipScalar s
  | d + 1, s =>
    match s with
    | some '[' :: s => group ']' (fun _ s => skipValue d s) () s
    | some '\x7b' :: s =>
      group '\x7d' (fun _ s =>
        match s with
        | some '"' :: s => do
          let (_, s) ← pieces s
          match skipBlanks s with
          | some ':' :: s => skipValue d (skipBlanks s)
          | _ => none
        | _ => none) () s
    | s => skipScalar s

/-- A value of any depth, which is less than the length of its text. -/
def skip : Reader Unit := fun s => skipValue s.length s

/-- A member of a record: how it is read into what is known so far. Reading fails if the member is
    known already. -/
structure RecordField (σ : Type) where
  key : String
  read : Nat → σ → Reader σ

/-- A field that sets one component, read by `item`. -/
def RecordField.of (key : String) (item : Nat → Reader α) (get : σ → Option α)
    (set : α → σ → σ) : RecordField σ where
  key := key
  read d acc s :=
    match get acc with
    | some _ => none
    | none => (item d s).map fun (a, s) => (set a acc, s)

/-- A record in either form. -/
def record (fields : List (RecordField σ)) (start : σ) : Nat → Reader σ
  | d + 1, some '\x7b' :: s =>
    group '\x7d' (member fun k acc s =>
      match fields.find? (·.key == k) with
      | some f => f.read d acc s
      | none => (skip s).map fun (_, s) => (acc, s)) start s
  | d + 1, some '[' :: s =>
    (group ']' (fun (acc, left) s =>
      match left with
      | [] => none
      | f :: left => (f.read d acc s).map fun (acc, s) => ((acc, left), s)) (start, fields) s).map
        fun ((acc, _), s) => (acc, s)
  | _, _ => none

/-- A text. -/
def textReader : Nat → Reader String
  | _, some '"' :: s => stringReader s
  | _, _ => none

/-- An integer of 64 bits with sign. -/
def int64Reader : Nat → Reader Int := fun _ s => do
  let (t, s) ← numberText s
  match ← t.value? with
  | .int n => if -int64Bound ≤ n ∧ n < int64Bound then some (n, s) else none
  | .float _ => none

/-- `null` or what `item` reads. -/
def optional (item : Nat → Reader α) : Nat → Reader (Option α)
  | _, some 'n' :: s => (word "ull" s).map fun (_, s) => (none, s)
  | d, s => (item d s).map fun (a, s) => (some a, s)

end CallTransfer.Json
