import CallTransfer.Event
import CallTransfer.Proofs.Json.Record

/-!
    Events are READ BACK. What a text holds as an event fits where it stands: below the event and
    its details, the contact's members nest no deeper than is left of the depth of texts. An event
    that fits is read again from each of its written forms, in whatever order its parameters are
    written; which text it was first read from does not matter. What is then WRITTEN AGAIN is the
    same value, but may be another text, as the order of the parameters is not kept.
-/

namespace CallTransfer.Event

open Json (Keeps Takes TakesMembers HoldsFloat maxDepth members record recordMember textReader)

/-- How deep a contact may nest, which stands in details, which stand in an event. -/
def contactDepth : Nat := maxDepth - 2

/-- Whether an event is one that a text can hold. -/
structure Fits (e : Event) : Prop where
  contact : Json.Fits contactDepth (.object e.contact)
  parameters : e.parameters.Sorted

/-- The contact's id is a string among its members, or nothing. -/
theorem contactId_cases (e : Event) :
    e.contact.find? "ContactId" = some (.string e.contactId) ∨
      e.contactId = "" ∧ ∀ id, e.contact.find? "ContactId" ≠ some (.string id) := by
  rw [contactId]
  cases e.contact.find? "ContactId" with
  | none => exact Or.inr ⟨rfl, nofun⟩
  | some v =>
    cases v with
    | string id => exact Or.inl rfl
    | _ => exact Or.inr ⟨rfl, nofun⟩

/-! ### Reading -/

/-- Whether what is known of details is as texts hold it. -/
structure DetailsDraft.Fits (d : DetailsDraft) : Prop where
  contact : ∀ ms, d.contact = some ms → Json.Fits contactDepth (.object ms)
  parameters : ∀ ms, d.parameters = some ms → ms.Sorted

theorem DetailsDraft.fits_none : DetailsDraft.Fits ⟨none, none⟩ := by
  constructor <;> rintro _ ⟨⟩

theorem keeps_detailsFields :
    ∀ f ∈ detailsFields, Keeps DetailsDraft.Fits (f.read contactDepth) := by
  refine List.forall_mem_cons.mpr ⟨?_, List.forall_mem_singleton.mpr ?_⟩
  · refine Json.keeps_of fun acc s ms rest hacc hread => ⟨?_, hacc.parameters⟩
    rintro _ ⟨⟩
    exact Json.fits_of_value (Json.value_of_members hread)
  · refine Json.keeps_of fun acc s ms rest hacc hread => ⟨hacc.contact, ?_⟩
    rintro _ ⟨⟩
    exact Json.sorted_of_members hread

/-- Whether what is known of an event is as texts hold it. -/
def Draft.Fits (d : Draft) : Prop := ∀ details, d.details = some details → details.Fits

theorem Draft.fits_none : Draft.Fits ⟨none, none⟩ := by
  rintro _ ⟨⟩

theorem keeps_fields : ∀ f ∈ fields, Keeps Draft.Fits (f.read (contactDepth + 1)) := by
  refine List.forall_mem_cons.mpr ⟨?_, List.forall_mem_singleton.mpr ?_⟩
  · refine Json.keeps_of fun acc s details rest hacc hread => ?_
    rintro _ ⟨⟩
    exact Keeps.record keeps_detailsFields DetailsDraft.fits_none hread
  · exact Json.keeps_of fun acc s name rest hacc hread => hacc

/-- Everything that was not read fits, as it is empty. -/
theorem Draft.Fits.event {d : Draft} (h : d.Fits) : d.event.Fits := by
  have hempty : Json.Fits contactDepth (.object []) := .object List.Pairwise.nil nofun
  obtain ⟨- | details, name⟩ := d
  · exact ⟨hempty, List.Pairwise.nil⟩
  · obtain ⟨hcontact, hparameters⟩ := h details rfl
    obtain ⟨contact, parameters⟩ := details
    constructor
    · cases contact with
      | none => exact hempty
      | some ms => exact hcontact ms rfl
    · cases parameters with
      | none => exact List.Pairwise.nil
      | some ms => exact hparameters ms rfl

/-- What a text holds as an event fits. -/
theorem fits_of_decode? {text : String} {e : Event} (h : decode? text = some e) : e.Fits := by
  obtain ⟨d, hd, rfl⟩ := Option.map_eq_some_iff.mp h
  unfold Json.document at hd
  split at hd
  · rename_i found rest hread
    split at hd
    · cases hd
      exact Draft.Fits.event (Keeps.record keeps_fields Draft.fits_none hread)
    · cases hd
  · cases hd

/-! ### Reading back -/

variable {e : Event} {order : List (String × String)}

/-- Details that are written are taken for what is in them. -/
theorem Fits.takes_details (h : e.Fits) (hf : ¬ HoldsFloat (.object e.contact))
    (hp : order.Perm e.parameters) :
    Takes (record detailsFields ⟨none, none⟩ (contactDepth + 1))
      (Json.write (.object [("ContactData", .object e.contact),
        ("Parameters", .object (order.map fun p => (p.1, .string p.2)))]))
      ⟨some e.contact, some e.parameters⟩ := by
  have hcontact : Takes (members Json.value contactDepth) (Json.write (.object e.contact))
      e.contact := h.contact.takes_members hf
  have hparameters : Takes (members textReader contactDepth)
      (Json.write (.object (order.map fun p => (p.1, .string p.2)))) (Members.ofList order) :=
    Json.takes_members Json.Value.string fun p _ => Json.takes_text _ p.2
  rw [Members.ofList_of_perm h.parameters hp] at hparameters
  have hfirst : Takes (recordMember detailsFields contactDepth "ContactData" ⟨none, none⟩)
      (Json.write (.object e.contact)) ⟨some e.contact, none⟩ :=
    Takes.recordMember (hcontact.field rfl) rfl
  have hsecond : Takes (recordMember detailsFields contactDepth "Parameters" ⟨some e.contact, none⟩)
      (Json.write (.object (order.map fun p => (p.1, .string p.2))))
      ⟨some e.contact, some e.parameters⟩ :=
    Takes.recordMember (hparameters.field rfl) rfl
  exact TakesMembers.record (.cons hfirst (.cons hsecond .nil))

/-- An event that is written is taken for what is in it. -/
theorem Fits.takes_toJson (h : e.Fits) (hf : ¬ HoldsFloat (.object e.contact))
    (hp : order.Perm e.parameters) :
    Takes (record fields ⟨none, none⟩ maxDepth) (Json.write (e.toJson order))
      ⟨some ⟨some e.contact, some e.parameters⟩, e.name.map some⟩ := by
  have hdetails := h.takes_details hf hp
  have hfirst : Takes (recordMember fields (contactDepth + 1) "Details" ⟨none, none⟩) _
      ⟨some ⟨some e.contact, some e.parameters⟩, none⟩ :=
    Takes.recordMember (hdetails.field rfl) rfl
  obtain ⟨contact, parameters, - | name⟩ := e
  · exact TakesMembers.record (.cons hfirst .nil)
  · have hsecond : Takes (recordMember fields (contactDepth + 1) "Name"
        ⟨some ⟨some contact, some parameters⟩, none⟩) (Json.write (.string name))
        ⟨some ⟨some contact, some parameters⟩, some (some name)⟩ :=
      Takes.recordMember ((Json.takes_optional _ name).field rfl) rfl
    exact TakesMembers.record (.cons hfirst (.cons hsecond .nil))

/-- An event that fits is read back from every one of its written forms. -/
theorem Fits.decode?_written (h : e.Fits) (hf : ¬ HoldsFloat (.object e.contact)) {written : String}
    (hw : e.IsWritten written) : decode? written = some e := by
  obtain ⟨order, hp, rfl⟩ := hw
  have hread := (h.takes_toJson hf hp).document (b := []) (a := []) nofun nofun
  rw [List.nil_append, List.append_nil] at hread
  rw [decode?, Json.Value.render, String.toList_ofList, hread, Option.map_some]
  obtain ⟨contact, parameters, - | name⟩ := e <;> rfl

/-- Of events without doubles in the contact, texts hold exactly those that fit. -/
theorem exists_decode?_iff (hf : ¬ HoldsFloat (.object e.contact)) :
    (∃ text, decode? text = some e) ↔ e.Fits :=
  ⟨fun ⟨_, h⟩ => fits_of_decode? h, fun h => ⟨_, h.decode?_written hf e.isWritten_encode⟩⟩

/-! ### Orders of the parameters -/

/-- What is written of an event spells it as a value, whatever the order of its parameters. -/
theorem Fits.spells_toJson (h : e.Fits) (hf : ¬ HoldsFloat (.object e.contact))
    (order : List (String × String)) :
    Json.Spells maxDepth (Json.write (e.toJson order)) (e.toJson order) := by
  have hparameters : Json.Spells contactDepth
      (Json.write (.object (order.map fun p => (p.1, .string p.2))))
      (.object (order.map fun p => (p.1, .string p.2))) := by
    refine Json.spells_object fun m hm => ?_
    obtain ⟨p, -, rfl⟩ := List.mem_map.mp hm
    exact (Json.SpellsScalar.string (Json.spellsText_flatMap _)).spells
  refine Json.spells_object (List.forall_mem_cons.mpr ⟨?_, fun m hm => ?_⟩)
  · refine Json.spells_object (List.forall_mem_cons.mpr ⟨?_, List.forall_mem_singleton.mpr ?_⟩)
    · exact h.contact.spells_write hf
    · exact hparameters
  · obtain ⟨name, -, rfl⟩ := List.mem_map.mp hm
    exact (Json.SpellsScalar.string (Json.spellsText_flatMap _)).spells

/-- As a value an event is the same in every order of its parameters, which are kept by key. -/
theorem Fits.merged_toJson (h : e.Fits) (hp : order.Perm e.parameters) :
    (e.toJson order).merged = e.toJson e.parameters := by
  have hparameters : Json.kept (order.map fun p => (p.1, .string p.2)) =
      e.parameters.map fun p => (p.1, .string p.2) := by
    rw [Json.kept, List.map_map]
    refine Members.ofList_of_perm ?_ (hp.map _)
    exact List.pairwise_map.mpr h.parameters
  have hdetails : Json.kept [("ContactData", .object e.contact),
        ("Parameters", .object (order.map fun p => (p.1, .string p.2)))] =
      [("ContactData", .object e.contact),
        ("Parameters", .object (e.parameters.map fun p => (p.1, .string p.2)))] := by
    rw [Json.kept, List.map_cons, List.map_singleton, h.contact.merged_eq, Json.Value.merged_object,
      hparameters]
    have hkeys : "ContactData" < "Parameters" := by decide
    exact Members.Sorted.ofList_eq (List.pairwise_pair.mpr hkeys)
  obtain ⟨contact, parameters, - | name⟩ := e
  · rw [toJson, Json.Value.merged_object, Json.kept, Option.toList_none, List.map_nil,
      List.map_singleton, Json.Value.merged_object, hdetails]
    rfl
  · rw [toJson, Json.Value.merged_object, Json.kept, Option.toList_some, List.map_singleton,
      List.map_cons, List.map_singleton, Json.Value.merged_object, hdetails]
    have hkeys : "Details" < "Name" := by decide
    exact congrArg Json.Value.object (Members.Sorted.ofList_eq (List.pairwise_pair.mpr hkeys))

/-- Every written form of an event holds the same value. -/
theorem Fits.ofString?_written (h : e.Fits) (hf : ¬ HoldsFloat (.object e.contact))
    {written : String} (hw : e.IsWritten written) :
    Json.Value.ofString? written = some (e.toJson e.parameters) := by
  obtain ⟨order, hp, rfl⟩ := hw
  rw [Json.ofString?_render_of_spells (h.spells_toJson hf order), h.merged_toJson hp]

/-- A written form of an event tells the order of its parameters. -/
theorem render_toJson_inj {other : List (String × String)}
    (h : (e.toJson order).render = (e.toJson other).render) : order = other := by
  have htext : Json.write (e.toJson order) = Json.write (e.toJson other) :=
    String.ofList_injective h
  refine Json.write_texts_inj ?_
  simpa [toJson, Json.write, Json.writeMembers] using htext

/-- An event has a single written form exactly if there is no more than one parameter. -/
theorem Fits.written_unique_iff (h : e.Fits) :
    (∀ written again, e.IsWritten written → e.IsWritten again → again = written) ↔
      e.parameters.length ≤ 1 := by
  constructor
  · intro hunique
    match hps : e.parameters, h.parameters with
    | [], _ => exact Nat.zero_le 1
    | [_], _ => exact Nat.le_refl 1
    | p :: q :: ps, hsorted =>
      have hswap : (q :: p :: ps).Perm e.parameters := hps ▸ List.Perm.swap p q ps
      have hsame := render_toJson_inj (hunique _ _ e.isWritten_encode ⟨_, hswap, rfl⟩)
      have hlt : p.1 < q.1 := (List.pairwise_cons.mp hsorted).1 q List.mem_cons_self
      rw [hps] at hsame
      rw [(List.cons.inj hsame).1] at hlt
      exact absurd hlt (String.lt_irrefl _)
  · rintro hle written again ⟨order, hp, rfl⟩ ⟨other, ho, rfl⟩
    match hps : e.parameters, hle with
    | [], _ =>
      rw [hps] at hp ho
      rw [hp.eq_nil, ho.eq_nil]
    | [_], _ =>
      rw [hps] at hp ho
      rw [List.perm_singleton.mp hp, List.perm_singleton.mp ho]

/-! ### Reading back and writing again -/

/-- Whether a text is a written form of the event that another one holds. -/
def IsWrittenAgain (text again : String) : Prop :=
  ∃ read, decode? text = some read ∧ read.IsWritten again

/-- What is written again after reading a written form back is any written form of the event. -/
theorem Fits.isWrittenAgain_iff (h : e.Fits) (hf : ¬ HoldsFloat (.object e.contact))
    {written again : String} (hw : e.IsWritten written) :
    IsWrittenAgain written again ↔ e.IsWritten again := by
  rw [IsWrittenAgain, h.decode?_written hf hw]
  exact ⟨fun ⟨_, hread, ha⟩ => Option.some.inj hread ▸ ha, fun ha => ⟨e, rfl, ha⟩⟩

/-- An event that a text holds is read back from each of its written forms, if there are no doubles
    in the contact: they all hold it, and they all hold the same value. So what is written again of
    what is read back differs from what was read in nothing but the order of the parameters, and
    never differs exactly if there is no more than one parameter. The contact's id and the
    parameters are what they were. -/
theorem decoded_reads_back {text : String} (h : decode? text = some e)
    (hf : ¬ HoldsFloat (.object e.contact)) :
    (∀ written, e.IsWritten written → decode? written = some e ∧
        Json.Value.ofString? written = some (e.toJson e.parameters)) ∧
      (∀ written again, e.IsWritten written → IsWrittenAgain written again →
        e.IsWritten again ∧ Json.Value.ofString? again = Json.Value.ofString? written) ∧
      ((∀ written again, e.IsWritten written → IsWrittenAgain written again → again = written) ↔
        e.parameters.length ≤ 1) ∧
      ∀ written read, e.IsWritten written → decode? written = some read →
        read.contactId = e.contactId ∧ ∀ key, read.parameter? key = e.parameter? key := by
  have hfits := fits_of_decode? h
  refine ⟨fun written hw => ?_, fun written again hw ha => ?_, ?_, fun written read hw hread => ?_⟩
  · exact ⟨hfits.decode?_written hf hw, hfits.ofString?_written hf hw⟩
  · have ha := (hfits.isWrittenAgain_iff hf hw).mp ha
    exact ⟨ha, (hfits.ofString?_written hf ha).trans (hfits.ofString?_written hf hw).symm⟩
  · rw [← hfits.written_unique_iff]
    exact forall₃_congr fun written again hw =>
      imp_congr_left (hfits.isWrittenAgain_iff hf hw)
  · rw [hfits.decode?_written hf hw] at hread
    cases hread
    exact ⟨rfl, fun _ => rfl⟩

set_option maxRecDepth 20000 in
/-- Details in the form of an array, with a member and a parameter that stand there twice, beside
    what is skipped; written with the parameters the other way round. -/
theorem decoded_reads_back_array : ∃ text written e, decode? text = some e ∧
    ¬ HoldsFloat (.object e.contact) ∧ e.IsWritten written ∧ decode? written = some e ∧
      Json.Value.ofString? written = some (e.toJson e.parameters) := by
  have h : decode? ("\x7b\"id\":[1e999],\"Details\":[" ++
      "\x7b\"b\":\x7b\"n\":18446744073709551615\x7d,\"a\":[-1],\"a\":\"\\u00e9\"\x7d," ++
      "\x7b\"l\":\"2\",\"k\":\"1\",\"k\":\"\"\x7d],\"Name\":null\x7d") = some
        ⟨[("a", .string "é"), ("b", .object [("n", .number (.int 18446744073709551615))])],
          [("k", ""), ("l", "2")], none⟩ := by
    rfl
  have hf : ¬ HoldsFloat (.object [("a", .string "é"),
      ("b", .object [("n", .number (.int 18446744073709551615))])]) := by
    decide
  have hp : [("l", "2"), ("k", "")].Perm [("k", ""), ("l", "2")] := by
    decide
  exact ⟨_, _, _, h, hf, ⟨_, hp, rfl⟩, (decoded_reads_back h hf).1 _ ⟨_, hp, rfl⟩⟩

set_option maxRecDepth 20000 in
/-- What is read back may be written in another order than what was read. -/
theorem written_in_other_order :
    let written := "\x7b\"Details\":\x7b\"ContactData\":\x7b\x7d,\"Parameters\":" ++
      "\x7b\"b\":\"2\",\"a\":\"1\"\x7d\x7d\x7d"
    let again := "\x7b\"Details\":\x7b\"ContactData\":\x7b\x7d,\"Parameters\":" ++
      "\x7b\"a\":\"1\",\"b\":\"2\"\x7d\x7d\x7d"
    ∃ e, decode? written = some e ∧ ¬ HoldsFloat (.object e.contact) ∧ e.IsWritten written ∧
      IsWrittenAgain written again ∧ again ≠ written := by
  dsimp only
  refine ⟨⟨[], [("a", "1"), ("b", "2")], none⟩, rfl, by decide, ?written,
    ⟨⟨[], [("a", "1"), ("b", "2")], none⟩, rfl, ?again⟩, by decide⟩
  case written => exact ⟨[("b", "2"), ("a", "1")], by decide, by decide⟩
  case again => exact ⟨[("a", "1"), ("b", "2")], by decide, by decide⟩

end CallTransfer.Event
