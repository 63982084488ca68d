import CallTransfer.Text.Hex
import CallTransfer.Text.Printable

/-!
    Texts quoted for display. Quotes, backslashes and the common control characters get a backslash;
    other characters without an image of their own, and marks that would join the one before, are
    given by number.
-/

namespace CallTransfer.Text

/-- A character inside quotes. -/
def displayChar (c : Char) : List Char :=
  match c with
  | '\x00' => ['\\', '0']
  | '\t' => ['\\', 't']
  | '\r' => ['\\', 'r']
  | '\n' => ['\\', 'n']
  | '\\' => ['\\', '\\']
  | '"' => ['\\', '"']
  | c => if hasImage c then [c] else '\\' :: 'u' :: '\x7b' :: Hex.ofNat c.toNat ++ ['\x7d']

/-- A text in quotes. -/
def quoted (s : String) : String := String.ofList ('"' :: s.toList.flatMap displayChar ++ ['"'])

end CallTransfer.Text
