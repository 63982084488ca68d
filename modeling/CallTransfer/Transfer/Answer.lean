import CallTransfer.Failure
import CallTransfer.Transfer.Request

/-!
    What the backend's response comes to. A transfer is answered by any object, which is passed on;
    a handoff by an object with a `handoff` in it, of which four texts are passed on under names of
    their own. A handoff is a record of texts, and records may also be arrays; that both of these
    are objects is checked before they are taken apart.
-/

namespace CallTransfer

/-- A flat answer, by name. -/
abbrev Answer := Members Json.Value

namespace Transfer

/-- Why a response gives no answer. -/
inductive ShapeFault where
  | notJson (url : String)
  | notObject (url : String) (value : Json.Value)
  | noHandoff (value : Json.Value)
  | missingText

/-- The wording of a fault. -/
def ShapeFault.message : ShapeFault → String
  | notJson url => "failed to parse JSON response from " ++ url ++ ": " ++ Json.notJson
  | notObject url value => "expected a JSON object from " ++ url ++ ", got: " ++ value.render
  | noHandoff value => "invalid handoff response structure: " ++ value.render
  | missingText => "invalid handoff response: missing or invalid required fields " ++
      "(conversation, conversationCorrelationId, summary, transferTarget)"

/-- What the backend tells of a handoff. -/
structure Handoff where
  conversation : String
  correlationId : String
  summary : String
  transferTarget : String
  deriving DecidableEq, Repr

namespace Handoff

/-- A text among members. -/
def text? (ms : Members Json.Value) (key : String) : Option String :=
  (ms.find? key).bind (·.string?)

/-- The handoff that a value is, as an object of its texts or an array of them. -/
def ofValue? : Json.Value → Option Handoff
  | .object ms => do
    return {
      conversation := ← text? ms "conversation"
      correlationId := ← text? ms "conversationCorrelationId"
      summary := ← text? ms "summary"
      transferTarget := ← text? ms "transferTarget" }
  | .array [conversation, correlationId, summary, transferTarget] => do
    return {
      conversation := ← conversation.string?
      correlationId := ← correlationId.string?
      summary := ← summary.string?
      transferTarget := ← transferTarget.string? }
  | _ => none

/-- The handoff in a response, which is an object of one or an array of one. -/
def ofResponse? : Json.Value → Option Handoff
  | .object ms => (Members.find? "handoff" ms).bind ofValue?
  | .array [v] => ofValue? v
  | _ => none

/-- The answer that passes a handoff on. -/
def answer (h : Handoff) : Answer := [
  ("handoff_conversation", .string h.conversation),
  ("handoff_conversationCorrelationId", .string h.correlationId),
  ("handoff_summary", .string h.summary),
  ("handoff_transferTarget", .string h.transferTarget)]

end Handoff

/-- The answer in a response to a request for `url`. -/
def answer (url : String) (action : Action) (body : Bytes) : Except ShapeFault Answer :=
  match Json.Value.ofBytes? body with
  | none => .error (.notJson url)
  | some value =>
    match action with
    | .pstnTransfer =>
      match value.object? with
      | some ms => .ok ms
      | none => .error (.notObject url value)
    | .handoff =>
      match (value.get? "handoff").bind (·.object?) with
      | none => .error (.noHandoff value)
      | some _ =>
        match Handoff.ofResponse? value with
        | some handoff => .ok handoff.answer
        | none => .error .missingText

/-- An answer as text. -/
def renderAnswer (a : Answer) : String := (Json.Value.object a).render

end Transfer

end CallTransfer
