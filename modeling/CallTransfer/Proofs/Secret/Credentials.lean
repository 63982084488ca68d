import CallTransfer.Http.Request
import CallTransfer.Proofs.Text.Base64
import CallTransfer.Secret.Credentials
import Mathlib.Data.List.TakeWhile

/-!
    Basic headers. One names a client by its id and its secret with a colon between them, and is
    read from its end back to its beginning: the scheme is taken off, the rest is Base64 of a text,
    and the FIRST colon in that ends the id. What is read so is what has been written, for every
    client whose id has no colon of its own; and any client may be named in a header.
-/

namespace CallTransfer.Credentials

variable {client other : Credentials}

/-! ### Reading -/

/-- The client that a text names in the clear. -/
def ofText? (text : List Char) : Option Credentials :=
  match text.dropWhile (· ≠ ':') with
  | _ :: secret => some ⟨String.ofList (text.takeWhile (· ≠ ':')), String.ofList secret⟩
  | [] => none

/-- The client that a Basic header names. -/
def ofBasicHeader? (value : String) : Option Credentials := do
  let symbols ← Text.after? "Basic ".toList value.toList
  let bytes ← Text.Base64.decode? symbols
  let text ← Text.Utf8.decode? bytes
  ofText? text.toList

theorem ofText?_append {id secret : List Char} (h : ':' ∉ id) :
    ofText? (id ++ ':' :: secret) = some ⟨String.ofList id, String.ofList secret⟩ := by
  have hid : ∀ c ∈ id, decide (c ≠ ':') = true := fun c hc => by
    rw [decide_eq_true_iff]
    rintro rfl
    exact h hc
  rw [ofText?, List.dropWhile_append_of_pos hid, List.takeWhile_append_of_pos hid,
    List.dropWhile_cons_of_neg (by decide), List.takeWhile_cons_of_neg (by decide),
    List.append_nil]

/-- A text names a client exactly if the first colon in it is between the id and the secret. -/
theorem ofText?_eq_some_iff {text : List Char} : ofText? text = some client ↔
    text = client.id.toList ++ ':' :: client.secret.toList ∧ ':' ∉ client.id.toList := by
  constructor
  · intro h
    by_cases hm : ':' ∈ text
    · obtain ⟨id, secret, rfl, hid⟩ := List.eq_append_cons_of_mem hm
      rw [ofText?_append hid] at h
      cases h
      simp only [String.toList_ofList]
      exact ⟨trivial, hid⟩
    · have hnone : text.dropWhile (· ≠ ':') = [] := by
        rw [List.dropWhile_eq_nil_iff]
        intro c hc
        rw [decide_eq_true_iff]
        exact ne_of_mem_of_not_mem hc hm
      rw [ofText?, hnone] at h
      cases h
  · rintro ⟨rfl, hid⟩
    rw [ofText?_append hid, String.ofList_toList, String.ofList_toList]

/-! ### Writing -/

/-- The bytes of an id, a colon and a secret. -/
theorem encode_joined (client : Credentials) :
    Text.Utf8.encode (client.id ++ ":" ++ client.secret) =
      Text.Utf8.encode client.id ++ 0x3A :: Text.Utf8.encode client.secret := by
  have hcolon : Text.Utf8.encode ":" = [0x3A] := by decide
  rw [Text.Utf8.encode_append, Text.Utf8.encode_append, hcolon, List.append_assoc,
    List.singleton_append]

theorem toList_basicHeader (client : Credentials) : client.basicHeader.toList = "Basic ".toList ++
    Text.Base64.encode (Text.Utf8.encode (client.id ++ ":" ++ client.secret)) := by
  rw [basicHeader, String.toList_append]
  exact congrArg ("Basic ".toList ++ ·) String.toList_ofList

/-- Headers are alike exactly if the texts are that they are written of. -/
theorem basicHeader_eq_iff : client.basicHeader = other.basicHeader ↔
    client.id ++ ":" ++ client.secret = other.id ++ ":" ++ other.secret := by
  constructor
  · intro h
    have hlist := congrArg String.toList h
    rw [toList_basicHeader, toList_basicHeader] at hlist
    have hdecoded := congrArg Text.Base64.decode? (List.append_cancel_left hlist)
    rw [Text.Base64.decode?_encode, Text.Base64.decode?_encode] at hdecoded
    have hread := congrArg Text.Utf8.decode? (Option.some.inj hdecoded)
    rw [Text.Utf8.decode?_encode, Text.Utf8.decode?_encode] at hread
    exact Option.some.inj hread
  · intro h
    rw [basicHeader, basicHeader, h]

/-- Any client may be named in a header. -/
theorem isHeaderValue_basicHeader (client : Credentials) :
    Http.isHeaderValue client.basicHeader = true := by
  have hscheme : "Basic ".toList.all Http.isHeaderChar = true := by decide
  have hknown : Text.Base64.alphabet.all Http.isHeaderChar = true := by decide
  rw [Http.isHeaderValue, toList_basicHeader, List.all_append, hscheme, Bool.true_and,
    List.all_eq_true]
  intro c hc
  rcases Text.Base64.mem_encode hc with hc | rfl
  · exact List.all_eq_true.mp hknown c hc
  · decide

/-- A header names a client exactly if it is the one that is written for that, and the id of the
    client has no colon. -/
theorem ofBasicHeader?_eq_some_iff {value : String} : ofBasicHeader? value = some client ↔
    value = client.basicHeader ∧ ':' ∉ client.id.toList := by
  have hjoined : (client.id ++ ":" ++ client.secret).toList =
      client.id.toList ++ ':' :: client.secret.toList := by
    rw [String.toList_append, String.toList_append, List.append_assoc]
    rfl
  simp only [ofBasicHeader?, Option.bind_eq_bind, Option.bind_eq_some_iff,
    Text.after?_eq_some_iff, Text.Base64.decode?_eq_some_iff, Text.Utf8.decode?_eq_some_iff,
    ofText?_eq_some_iff, ← hjoined, String.toList_inj]
  constructor
  · rintro ⟨_, hvalue, _, rfl, _, rfl, rfl, hid⟩
    rw [← toList_basicHeader, String.toList_inj] at hvalue
    exact ⟨hvalue, hid⟩
  · rintro ⟨rfl, hid⟩
    exact ⟨_, toList_basicHeader client, _, rfl, _, rfl, rfl, hid⟩

end CallTransfer.Credentials
