import CallTransfer.Json.Quoted
import CallTransfer.Text.Search

/-!
    Strict JSON text. Blanks are space, tab, line feed and carriage return; nothing may precede or
    follow the value but blanks; arrays and objects nest to a given depth and no deeper. The loops
    over the items of a group take any step for an item, so that values, records and skipped text
    share them.
-/

namespace CallTransfer.Json

open Text.Utf8 (Scanned)

/-- What is said of a text that holds no value. -/
def notJson : String := "<json>"

/-- How deep arrays and objects may nest. -/
def maxDepth : Nat := 127

/-- Whether a character is blank between tokens. -/
def isBlank (c : Option Char) : Bool :=
  c == some ' ' || c == some '\t' || c == some '\n' || c == some '\r'

/-- What follows the blanks at the front of a text. -/
def skipBlanks (s : Scanned) : Scanned := s.dropWhile isBlank

/-- A fixed word. -/
def word (w : String) : Reader Unit := fun s =>
  (Text.after? (w.toList.map some) s).map ((), ·)

/-- Items separated by commas up to the bracket `close`; the first one stands at the front. The
    number bounds the items. -/
def itemsUpTo (close : Char) (item : σ → Reader σ) : Nat → σ → Reader σ
  | 0, _, _ => none
  | n + 1, acc, s => do
    let (acc, s) ← item acc (skipBlanks s)
    match skipBlanks s with
    | some c :: s =>
      if c = ',' then itemsUpTo close item n acc s
      else if c = close then some (acc, s) else none
    | _ => none

/-- Any number of items after an opening bracket. -/
def group (close : Char) (item : σ → Reader σ) (acc : σ) : Reader σ := fun s =>
  match skipBlanks s with
  | [] => none
  | c :: s =>
    if c = some close then some (acc, s) else itemsUpTo close item (s.length + 1) acc (c :: s)

/-- A member: its key in quotes, a colon, and what `value` reads for that key. -/
def member (value : String → σ → Reader σ) (acc : σ) : Reader σ
  | some '"' :: s => do
    let (key, s) ← stringReader s
    match skipBlanks s with
    | some ':' :: s => value key acc (skipBlanks s)
    | _ => none
  | _ => none

/-- A value that is neither array nor object. -/
def scalar : Reader Value
  | some 'n' :: s => (word "ull" s).map fun (_, s) => (.null, s)
  | some 't' :: s => (word "rue" s).map fun (_, s) => (.bool true, s)
  | some 'f' :: s => (word "alse" s).map fun (_, s) => (.bool false, s)
  | some '"' :: s => (stringReader s).map fun (t, s) => (.string t, s)
  | s => do
    let (t, s) ← numberText s
    return (.number (← t.value?), s)

/-- A value whose arrays and objects nest at most to the given depth. -/
def value : Nat → Reader Value
  | 0, s => scalar s
  | d + 1, s =>
    match s with
    | some '[' :: s =>
      (group ']' (fun vs s => (value d s).map fun (v, s) => (v :: vs, s)) [] s).map
        fun (vs, s) => (.array vs.reverse, s)
    | some '\x7b' :: s =>
      (group '\x7d' (member fun k ms s => (value d s).map fun (v, s) => (Members.insert k v ms, s))
        [] s).map fun (ms, s) => (.object ms, s)
    | s => scalar s

/-- The members of an object, each value read by `item` and the last of equal keys kept. -/
def members (item : Nat → Reader α) : Nat → Reader (Members α)
  | d + 1, some '\x7b' :: s =>
    group '\x7d' (member fun k ms s => (item d s).map fun (v, s) => (Members.insert k v ms, s)) [] s
  | _, _ => none

/-- The one thing that a whole text holds. -/
def document (r : Nat → Reader α) (s : Scanned) : Option α :=
  match r maxDepth (skipBlanks s) with
  | some (a, s) => if (skipBlanks s).isEmpty then some a else none
  | none => none

/-- The value that a text holds. -/
def Value.ofScanned? (s : Scanned) : Option Value := document value s

/-- The value that a text holds. -/
def Value.ofString? (s : String) : Option Value := Value.ofScanned? (s.toList.map some)

/-- The value that bytes hold. -/
def Value.ofBytes? (bs : Bytes) : Option Value := Value.ofScanned? (Text.Utf8.scan bs)

end CallTransfer.Json
