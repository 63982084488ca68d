import CallTransfer.Proofs.Json.Pairs
import CallTransfer.Secret.Vault

/-!
    What the vault HANDS OUT. It is asked under a resource name that says where the secret is kept,
    by its beginning alone, and what it is asked for are two nonempty strings in an object.
    Everything else is refused, some of it before the vault is asked.
-/

namespace CallTransfer

/-! ### Fields -/

namespace Text

variable [BEq α] [LawfulBEq α] {sep : α} {s f : List α} {rest : List (List α)}

/-- A first field ends with its text or before a separator, behind which are the other fields. -/
theorem fields_eq_cons_iff : fields sep s = f :: rest ↔ sep ∉ f ∧
    (s = f ∧ rest = [] ∨ ∃ t, s = f ++ sep :: t ∧ rest = fields sep t) := by
  constructor
  · intro h
    by_cases hm : sep ∈ s
    · obtain ⟨g, t, rfl, hg⟩ := List.eq_append_cons_of_mem hm
      rw [fields_append_cons, fields_of_not_mem hg] at h
      cases h
      exact ⟨hg, Or.inr ⟨t, rfl, rfl⟩⟩
    · rw [fields_of_not_mem hm] at h
      cases h
      exact ⟨hm, Or.inl ⟨rfl, rfl⟩⟩
  · rintro ⟨hf, ⟨rfl, rfl⟩ | ⟨t, rfl, rfl⟩⟩
    · exact fields_of_not_mem hf
    · rw [fields_append_cons, fields_of_not_mem hf]
      rfl

end Text

/-! ### Resource names -/

namespace Secret

/-- Whether a resource name puts a secret into a region. -/
structure PutsIn (arn region : String) : Prop where
  text : ∃ rest, arn.toList = "arn:aws:secretsmanager:".toList ++ region.toList ++ rest ∧
    (rest = [] ∨ ∃ behind, rest = ':' :: behind)
  nonempty : region ≠ ""
  plain : ':' ∉ region.toList

/-- The fields of a text behind a beginning that puts secrets into regions. -/
theorem fields_eq_iff {arn region : List Char} {rest : List (List Char)} :
    Text.fields ':' arn =
        "arn".toList :: "aws".toList :: "secretsmanager".toList :: region :: rest ↔
      ∃ behind, arn = "arn:aws:secretsmanager:".toList ++ behind ∧
        Text.fields ':' behind = region :: rest := by
  have hfixed : "arn:aws:secretsmanager:".toList =
      "arn".toList ++ ':' :: ("aws".toList ++ ':' :: ("secretsmanager".toList ++ [':'])) := by
    decide
  constructor
  · intro h
    obtain ⟨-, ⟨-, he⟩ | ⟨t, rfl, ht⟩⟩ := Text.fields_eq_cons_iff.mp h
    · cases he
    · obtain ⟨-, ⟨-, he⟩ | ⟨u, rfl, hu⟩⟩ := Text.fields_eq_cons_iff.mp ht.symm
      · cases he
      · obtain ⟨-, ⟨-, he⟩ | ⟨v, rfl, hv⟩⟩ := Text.fields_eq_cons_iff.mp hu.symm
        · cases he
        · exact ⟨v, by simp [hfixed], hv.symm⟩
  · rintro ⟨behind, rfl, h⟩
    rw [hfixed]
    simp only [List.append_assoc, List.cons_append, List.nil_append, Text.fields_append_cons, h]
    rfl

/-- A region is read off a resource name exactly if that puts the secret there. -/
theorem region?_eq_some_iff {arn region : String} :
    region? arn = some region ↔ PutsIn arn region := by
  constructor
  · intro h
    unfold region? at h
    split at h
    · rename_i a b c found rest hf
      split at h
      · rename_i hfixed
        obtain ⟨rfl, rfl, rfl, hn⟩ := hfixed
        cases h
        obtain ⟨behind, harn, hb⟩ := fields_eq_iff.mp hf
        obtain ⟨hc, hends⟩ := Text.fields_eq_cons_iff.mp hb
        refine ⟨?_, by simpa using hn, by rwa [String.toList_ofList]⟩
        rw [harn, String.toList_ofList]
        rcases hends with ⟨rfl, -⟩ | ⟨t, rfl, -⟩
        · exact ⟨[], by simp, Or.inl rfl⟩
        · exact ⟨':' :: t, by simp, Or.inr ⟨t, rfl⟩⟩
      · cases h
    · cases h
  · rintro ⟨⟨behind, harn, hbehind⟩, hn, hc⟩
    obtain ⟨rest, hrest⟩ : ∃ rest, Text.fields ':' (region.toList ++ behind) =
        region.toList :: rest := by
      rcases hbehind with rfl | ⟨t, rfl⟩
      · exact ⟨[], Text.fields_eq_cons_iff.mpr ⟨hc, Or.inl ⟨by simp, rfl⟩⟩⟩
      · exact ⟨_, Text.fields_eq_cons_iff.mpr ⟨hc, Or.inr ⟨t, rfl, rfl⟩⟩⟩
    have hf := fields_eq_iff.mpr ⟨_, harn.trans (List.append_assoc ..), hrest⟩
    have hne : region.toList ≠ [] := by simpa using hn
    rw [region?, hf]
    simp [hne]

/-- The region is the fourth field. -/
theorem PutsIn.field {arn region : String} (h : PutsIn arn region) :
    (Text.fields ':' arn.toList)[3]? = some region.toList := by
  have hr := region?_eq_some_iff.mpr h
  unfold region? at hr
  split at hr
  · rename_i hf
    split at hr
    · cases hr
      rw [hf, String.toList_ofList]
      rfl
    · cases hr
  · cases hr

end Secret

/-! ### Kept credentials -/

namespace Credentials

/-- Whether credentials are kept in a text: the last member of either key is a nonempty string. -/
structure IsKeptIn (client : Credentials) (text : String) : Prop where
  pairs : ∃ pairs, Json.pairs? text = some pairs ∧
    IsLast pairs "oauthClientId" (.string client.id) ∧
    IsLast pairs "oauthClientSecret" (.string client.secret)
  id : client.id ≠ ""
  secret : client.secret ≠ ""

theorem nonempty?_eq_some_iff {ms : Members Json.Value} {key text : String} :
    nonempty? ms key = some text ↔ ms.find? key = some (.string text) ∧ text ≠ "" := by
  rw [nonempty?, Option.filter_eq_some_iff, Option.bind_eq_some_iff]
  simp [Json.Value.string?_eq_some_iff]

/-- Credentials are read off a text exactly if they are kept in it. -/
theorem parse_eq_ok_iff {text : String} {client : Credentials} :
    parse text = .ok client ↔ client.IsKeptIn text := by
  constructor
  · intro h
    unfold parse at h
    split at h
    · cases h
    · rename_i v hv
      split at h
      · cases h
      · rename_i ms hms
        split at h
        · rename_i hid hsecret
          cases h
          have ho : v = .object ms := Json.Value.object?_eq_some_iff.mp hms
          obtain ⟨pairs, hpairs, rfl⟩ := Json.ofString?_eq_some_object_iff.mp (ho ▸ hv)
          obtain ⟨hid, hn⟩ := nonempty?_eq_some_iff.mp hid
          obtain ⟨hsecret, hm⟩ := nonempty?_eq_some_iff.mp hsecret
          exact ⟨⟨pairs, hpairs, Members.find?_ofList_eq_some_iff.mp hid,
            Members.find?_ofList_eq_some_iff.mp hsecret⟩, hn, hm⟩
        · cases h
  · rintro ⟨⟨pairs, hpairs, hid, hsecret⟩, hn, hm⟩
    have hv := Json.ofString?_eq_some_object_iff.mpr ⟨pairs, hpairs, rfl⟩
    have hi := nonempty?_eq_some_iff.mpr ⟨Members.find?_ofList_eq_some_iff.mpr hid, hn⟩
    have hs := nonempty?_eq_some_iff.mpr ⟨Members.find?_ofList_eq_some_iff.mpr hsecret, hm⟩
    simp only [parse, hv, Json.Value.object?, hi, hs]

/-- A text keeps one pair of credentials at most. -/
theorem IsKeptIn.unique {text : String} {client other : Credentials} (h : client.IsKeptIn text)
    (ho : other.IsKeptIn text) : other = client := by
  cases (parse_eq_ok_iff.mpr ho).symm.trans (parse_eq_ok_iff.mpr h)
  rfl

end Credentials

/-! ### Asking the vault -/

namespace Secret

variable {vault : Vault} {arn : String} {client : Credentials}

/-- What comes of a question, which does not reach a vault that is isolated. -/
def Vault.outcome (vault : Vault) : Reply :=
  if vault.isolated then .refused "dispatch failure" else vault.reply

/-- The questions that reach a vault when it is asked under a resource name. -/
def Vault.reached (vault : Vault) (arn : String) : List Call :=
  if vault.isolated then [] else (region? arn).toList.map fun region => ⟨region, arn⟩

/-- The vault after it has been asked under a resource name. -/
def Vault.asked (vault : Vault) (arn : String) : Vault :=
  { vault with calls := vault.calls ++ vault.reached arn }

/-- Whether a vault hands out credentials under a resource name. -/
structure Vault.Yields (vault : Vault) (arn : String) (client : Credentials) : Prop where
  located : ∃ region, PutsIn arn region
  kept : ∃ text, vault.outcome = .text text ∧ client.IsKeptIn text

theorem Vault.Yields.unique {other : Credentials} (h : vault.Yields arn client)
    (ho : vault.Yields arn other) : other = client := by
  obtain ⟨text, htext, hkept⟩ := h.kept
  obtain ⟨_, hsame, hother⟩ := ho.kept
  cases hsame.symm.trans htext
  exact hkept.unique hother

/-- An answer comes to the credentials that are kept in its text, or to a failure to authorise. -/
theorem Reply.credentials_cases (reply : Reply) :
    (∃ text client, reply = .text text ∧ client.IsKeptIn text ∧ reply.credentials = .ok client) ∨
      (∀ text (client : Credentials), reply = .text text → ¬ client.IsKeptIn text) ∧
        ∃ why, reply.credentials = .error (.auth why) := by
  cases reply with
  | text secret =>
    cases hp : Credentials.parse secret with
    | ok client =>
      refine Or.inl ⟨secret, client, rfl, Credentials.parse_eq_ok_iff.mp hp, ?_⟩
      simp [credentials, hp]
    | error fault =>
      refine Or.inr ⟨?_, fault.message, by simp [credentials, hp]⟩
      rintro _ client ⟨⟩ hkept
      cases hp.symm.trans (Credentials.parse_eq_ok_iff.mpr hkept)
  | binary => exact Or.inr ⟨nofun, _, rfl⟩
  | refused why => exact Or.inr ⟨nofun, _, rfl⟩

/-- A question comes to the credentials that the vault hands out, or else to a failure to
    authorise. -/
theorem Vault.retrieve_cases (vault : Vault) (arn : String) :
    (∃ client, vault.Yields arn client ∧ retrieve arn vault = (.ok client, vault.asked arn)) ∨
      (∀ client, ¬ vault.Yields arn client) ∧
        ∃ why, retrieve arn vault = (.error (.failed (.auth why)), vault.asked arn) := by
  cases hr : region? arn with
  | none =>
    refine Or.inr ⟨?_, invalidArn arn, ?_⟩
    · rintro client ⟨⟨region, hregion⟩, -⟩
      cases hr.symm.trans (region?_eq_some_iff.mpr hregion)
    · simp [retrieve, asked, reached, hr]
  | some region =>
    have hcalls : vault.asked arn = { vault with
        calls := if vault.isolated then vault.calls else vault.calls ++ [⟨region, arn⟩] } := by
      simp only [asked, reached, hr]
      split <;> simp
    rcases Reply.credentials_cases vault.outcome with
      ⟨text, client, ho, hkept, hc⟩ | ⟨hnone, why, hc⟩
    · refine Or.inl ⟨client, ⟨⟨region, region?_eq_some_iff.mp hr⟩, text, ho, hkept⟩, ?_⟩
      rw [outcome] at hc
      simp only [retrieve, hr, hc, hcalls]
    · refine Or.inr ⟨?_, why, ?_⟩
      · rintro client ⟨-, text, ho, hkept⟩
        exact hnone text client ho hkept
      · rw [outcome] at hc
        simp only [retrieve, hr, hc, hcalls]

theorem Vault.retrieve_of_yields (h : vault.Yields arn client) :
    retrieve arn vault = (.ok client, vault.asked arn) := by
  rcases vault.retrieve_cases arn with ⟨found, hfound, hr⟩ | ⟨hnone, -⟩
  · rw [hr, h.unique hfound]
  · exact absurd h (hnone client)

theorem Vault.retrieve_of_not_yields (h : ∀ client, ¬ vault.Yields arn client) :
    ∃ why, retrieve arn vault = (.error (.failed (.auth why)), vault.asked arn) := by
  rcases vault.retrieve_cases arn with ⟨found, hfound, -⟩ | ⟨-, hfailed⟩
  · exact absurd hfound (h found)
  · exact hfailed

/-- One question reaches a vault, and none if the resource name is no good. -/
theorem Vault.reached_of_putsIn {region : String} (h : PutsIn arn region) :
    vault.reached arn = if vault.isolated then [] else [⟨region, arn⟩] := by
  rw [reached, region?_eq_some_iff.mpr h]
  rfl

theorem Vault.reached_of_not_putsIn (h : ∀ region, ¬ PutsIn arn region) :
    vault.reached arn = [] := by
  have hnone : region? arn = none := by
    refine Option.eq_none_iff_forall_ne_some.mpr fun region hr => ?_
    exact h region (region?_eq_some_iff.mp hr)
  rw [reached, hnone]
  simp

end Secret

end CallTransfer
