import CallTransfer.Idna.Bidi
import CallTransfer.Idna.Label

/-!
    Domain names in ASCII. A name in ASCII without labels in ASCII form only has its capitals
    lowered; any other name is replaced character by character, composed, and taken label by label.
    No name may hold a character that means something in a URL.
-/

namespace CallTransfer.Idna

open Text (fields)

/-- ASCII characters that no domain name holds. -/
def isForbidden (c : Char) : Bool :=
  c.toNat ≤ 0x20 || c.toNat == 0x7F || "%#/:<>?@[\\]^|".toList.contains c

/-- Whether some label is in ASCII form. -/
def hasEncodedLabel (name : List Char) : Bool := (fields '.' name).any encodedStart.isPrefixOf

/-- The labels of a name that needs more than lower case. -/
def labels? (name : List Char) : Option (List (List Char)) := do
  let replaced ← name.mapM replace?
  let labels ← (fields '.' (compose replaced.flatten)).mapM readLabel?
  if labelsRunOneWay labels then some labels else none

/-- The ASCII form of a domain name. -/
def toAscii? (name : List Char) : Option (List Char) := do
  let lowered := name.map Char.toLower
  let ascii ←
    if lowered.all Punycode.isAscii && !hasEncodedLabel lowered then some lowered
    else (labels? name).map fun labels => ['.'].intercalate (labels.map writeLabel)
  if ascii.any isForbidden then none else some ascii

end CallTransfer.Idna
