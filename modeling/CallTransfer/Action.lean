/-!
    What an event can ask for.
-/

namespace CallTransfer

/-- The two look-ups of the gateway. -/
inductive Action where
  /-- Where and how to transfer a call over the telephone network. -/
  | pstnTransfer
  /-- What a virtual agent hands over to a human one. -/
  | handoff
  deriving DecidableEq, Repr

namespace Action

/-- The action that a text asks for. -/
def ofName? : String → Option Action
  | "get_pstn_transfer_data" => some .pstnTransfer
  | "get_handoff_data" => some .handoff
  | _ => none

/-- The wording for a text that asks for no action. -/
def unknown (name : String) : String := "invalid action: " ++ name

end Action

end CallTransfer
