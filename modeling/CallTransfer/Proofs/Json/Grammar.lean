import CallTransfer.Json.Reader

/-!
    The GRAMMAR of JSON text, said without a reader. A text spells a value AS WRITTEN, in which an
    object has all pairs that stand in the text, in their order. What is kept of that is the value
    with the pairs of every object made into members. Arrays and objects nest to a given depth, and
    a number counts only if it is not too large.
-/

namespace CallTransfer.Json

/-! ### Numbers -/

/-- At least one digit. -/
def IsDigits (t : List Char) : Prop := t ≠ [] ∧ ∀ c ∈ t, Numeral.isDigit c = true

/-- Digits of which only a lone zero starts with a zero. -/
def IsWhole (t : List Char) : Prop := t = ['0'] ∨ IsDigits t ∧ t.head? ≠ some '0'

/-- What stands for the fraction of a number. -/
inductive SpellsFraction : List Char → Option (List Char) → Prop
  | none : SpellsFraction [] none
  | some (h : IsDigits ds) : SpellsFraction ('.' :: ds) (some ds)

/-- What stands for the exponent of a number. -/
inductive SpellsExponent : List Char → Option (Bool × List Char) → Prop
  | none : SpellsExponent [] none
  | bare (he : e = 'e' ∨ e = 'E') (h : IsDigits ds) : SpellsExponent (e :: ds) (some (false, ds))
  | plus (he : e = 'e' ∨ e = 'E') (h : IsDigits ds) :
      SpellsExponent (e :: '+' :: ds) (some (false, ds))
  | minus (he : e = 'e' ∨ e = 'E') (h : IsDigits ds) :
      SpellsExponent (e :: '-' :: ds) (some (true, ds))

/-- What stands for a number: a sign, a whole part, a fraction and an exponent. -/
inductive SpellsNumber : List Char → NumberText → Prop
  | positive (hw : IsWhole w) (hf : SpellsFraction f fraction) (he : SpellsExponent e exponent) :
      SpellsNumber (w ++ f ++ e) ⟨false, w, fraction, exponent⟩
  | negative (hw : IsWhole w) (hf : SpellsFraction f fraction) (he : SpellsExponent e exponent) :
      SpellsNumber ('-' :: w ++ f ++ e) ⟨true, w, fraction, exponent⟩

/-! ### Strings -/

/-- What stands between quotes for characters: the characters themselves, letters or UTF-16 units
    behind backslashes, and pairs of units. -/
inductive SpellsText : List Char → List Char → Prop
  | nil : SpellsText [] []
  | plain (hq : c ≠ '"') (hb : c ≠ '\\') (hc : 0x20 ≤ c.toNat) (h : SpellsText t cs) :
      SpellsText (c :: t) (c :: cs)
  | letter (he : unescape? e = some c) (h : SpellsText t cs) :
      SpellsText ('\\' :: e :: t) (c :: cs)
  | unit (hu : unit? (some x₁) (some x₂) (some x₃) (some x₄) = some n) (hh : isHigh n = false)
      (hl : isLow n = false) (h : SpellsText t cs) :
      SpellsText ('\\' :: 'u' :: x₁ :: x₂ :: x₃ :: x₄ :: t) (Char.ofNat n :: cs)
  | pair (hu : unit? (some x₁) (some x₂) (some x₃) (some x₄) = some high)
      (hv : unit? (some y₁) (some y₂) (some y₃) (some y₄) = some low) (hh : isHigh high = true)
      (hl : isLow low = true) (h : SpellsText t cs) :
      SpellsText ('\\' :: 'u' :: x₁ :: x₂ :: x₃ :: x₄ :: '\\' :: 'u' :: y₁ :: y₂ :: y₃ :: y₄ :: t)
        (Char.ofNat (0x10000 + 0x400 * (high - 0xD800) + (low - 0xDC00)) :: cs)

/-! ### Values -/

/-- Whether all of a text is blank between tokens. -/
def Blank (t : List Char) : Prop := ∀ c ∈ t, c ∈ [' ', '\t', '\n', '\r']

/-- What stands for a value that is neither array nor object. -/
inductive SpellsScalar : List Char → Value → Prop
  | null : SpellsScalar "null".toList .null
  | true : SpellsScalar "true".toList (.bool true)
  | false : SpellsScalar "false".toList (.bool false)
  | string (h : SpellsText t s.toList) : SpellsScalar ('"' :: t ++ ['"']) (.string s)
  | number (h : SpellsNumber t n) (hx : n.value? = some x) : SpellsScalar t (.number x)

section Group
variable (close : Char) (Item : List Char → α → Prop)

/-- What stands for items: each with blanks around it, commas between them, and the closing bracket
    behind them. -/
inductive SpellsItems : List Char → List α → Prop
  | last (hb : Blank b) (hx : Item t x) (ha : Blank a) : SpellsItems (b ++ t ++ a ++ [close]) [x]
  | cons (hb : Blank b) (hx : Item t x) (ha : Blank a) (h : SpellsItems ts xs) :
      SpellsItems (b ++ t ++ a ++ ',' :: ts) (x :: xs)

/-- What stands for any number of items. -/
inductive SpellsGroup : List Char → List α → Prop
  | empty (hb : Blank b) : SpellsGroup (b ++ [close]) []
  | items (h : SpellsItems close Item t xs) : SpellsGroup t xs

/-- What stands for a pair: a key in quotes, a colon and an item. -/
inductive SpellsPair : List Char → String × α → Prop
  | mk (hk : SpellsText k key.toList) (hb : Blank b) (ha : Blank a) (hx : Item t x) :
      SpellsPair ('"' :: k ++ '"' :: b ++ ':' :: a ++ t) (key, x)

end Group

/-- What stands for a value, the items of which are spelled by `Item`. -/
inductive SpellsOver (Item : List Char → Value → Prop) : List Char → Value → Prop
  | scalar (h : SpellsScalar t v) : SpellsOver Item t v
  | array (h : SpellsGroup ']' Item t vs) : SpellsOver Item ('[' :: t) (.array vs)
  | object (h : SpellsGroup '\x7d' (SpellsPair Item) t ps) :
      SpellsOver Item ('\x7b' :: t) (.object ps)

/-- What stands for a value whose arrays and objects nest at most to the given depth. -/
def Spells : Nat → List Char → Value → Prop
  | 0 => SpellsScalar
  | d + 1 => SpellsOver (Spells d)

/-- What stands for a value in a text that holds nothing else but blanks. -/
inductive SpellsAll : List Char → Value → Prop
  | mk (hb : Blank b) (h : Spells maxDepth t v) (ha : Blank a) : SpellsAll (b ++ t ++ a) v

/-- Whether bytes are a text that holds a value, as it is written. -/
def Holds (bs : Bytes) (v : Value) : Prop :=
  ∃ text : String, bs = Text.Utf8.encode text ∧ SpellsAll text.toList v

/-! ### What is kept -/

mutual

/-- What is kept of a value as it is written: of equal keys of an object the last one. -/
def Value.merged : Value → Value
  | .array vs => .array (mergedItems vs)
  | .object ps => .object (Members.ofList (mergedPairs ps))
  | v => v

/-- What is kept of items. -/
def mergedItems : List Value → List Value
  | [] => []
  | v :: vs => v.merged :: mergedItems vs

/-- What is kept of the values in pairs. -/
def mergedPairs : List (String × Value) → List (String × Value)
  | [] => []
  | (k, v) :: ps => (k, v.merged) :: mergedPairs ps

end

theorem mergedItems_eq (vs : List Value) : mergedItems vs = vs.map Value.merged := by
  induction vs with
  | nil => rfl
  | cons v vs ih => rw [mergedItems, ih, List.map_cons]

theorem mergedPairs_eq (ps : List (String × Value)) :
    mergedPairs ps = ps.map fun p => (p.1, p.2.merged) := by
  induction ps with
  | nil => rfl
  | cons p ps ih => rw [mergedPairs, ih, List.map_cons]

/-- The members that are kept of pairs. -/
def kept (ps : List (String × Value)) : Members Value :=
  Members.ofList (ps.map fun p => (p.1, p.2.merged))

theorem Value.merged_array (vs : List Value) :
    (Value.array vs).merged = .array (vs.map Value.merged) := by
  rw [merged, mergedItems_eq]

theorem Value.merged_object (ps : List (String × Value)) :
    (Value.object ps).merged = .object (kept ps) := by
  rw [merged, mergedPairs_eq, kept]

end CallTransfer.Json
