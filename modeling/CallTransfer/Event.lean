import CallTransfer.Json.Record
import CallTransfer.Json.Writer

/-!
    Events. An event tells about a contact, in members of any kind that are passed on as they are,
    and brings parameters, which are texts. It is a record of a record in JSON, and is written back
    as an object with the members of the contact in the order of their keys. Parameters are kept by
    key without any order, so that they are written in ANY order: an event has as many written forms
    as there are orders.
-/

namespace CallTransfer

open Json (RecordField optional textReader record)

/-- What happened, and what is asked for. -/
structure Event where
  contact : Members Json.Value
  parameters : Members String
  name : Option String
  deriving Repr

namespace Event

/-- An event about nothing. -/
def empty : Event := ⟨[], [], none⟩

/-- What has been read of an event's details. -/
structure DetailsDraft where
  contact : Option (Members Json.Value)
  parameters : Option (Members String)

/-- The members of an event's details in their order. -/
def detailsFields : List (RecordField DetailsDraft) := [
  .of "ContactData" (Json.members Json.value) (·.contact) fun v d => { d with contact := v },
  .of "Parameters" (Json.members textReader) (·.parameters) fun v d => { d with parameters := v }]

/-- What has been read of an event. -/
structure Draft where
  details : Option DetailsDraft
  name : Option (Option String)

/-- The members of an event in their order. -/
def fields : List (RecordField Draft) := [
  .of "Details" (record detailsFields ⟨none, none⟩) (·.details) fun v d =>
    { d with details := v },
  .of "Name" (optional textReader) (·.name) fun v d => { d with name := v }]

/-- An event with everything that was not read empty. -/
def Draft.event (d : Draft) : Event where
  contact := (d.details.bind (·.contact)).getD []
  parameters := (d.details.bind (·.parameters)).getD []
  name := d.name.join

/-- The event that a text holds. -/
def decode? (text : String) : Option Event :=
  (Json.document (record fields ⟨none, none⟩) (text.toList.map some)).map Draft.event

/-- An event as a value, with its parameters in an order. -/
def toJson (e : Event) (order : List (String × String)) : Json.Value :=
  let details := .object [
    ("ContactData", .object e.contact),
    ("Parameters", .object (order.map fun (k, v) => (k, .string v)))]
  .object (("Details", details) :: (e.name.toList.map fun n => ("Name", .string n)))

/-- Whether a text is a written form of an event. -/
def IsWritten (e : Event) (text : String) : Prop :=
  ∃ order : List (String × String), order.Perm e.parameters ∧ text = (e.toJson order).render

/-- The written form with the parameters in the order of their keys. -/
def encode (e : Event) : String := (e.toJson e.parameters).render

theorem isWritten_encode (e : Event) : e.IsWritten e.encode := ⟨_, List.Perm.refl _, rfl⟩

/-- The contact's id, or nothing. -/
def contactId (e : Event) : String :=
  ((e.contact.find? "ContactId").bind (·.string?)).getD ""

/-- A parameter, unless it is empty. -/
def parameter? (e : Event) (key : String) : Option String :=
  (e.parameters.find? key).filter (· ≠ "")

end Event

end CallTransfer
