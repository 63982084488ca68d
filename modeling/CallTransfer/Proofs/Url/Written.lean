import CallTransfer.Proofs.Url.Spelling

/-!
    Endpoints that are WRITTEN OUT: a scheme, two slashes, a host in ASCII, and perhaps a user in
    front of it and a port and slashes behind it. The host that is called is the one that is
    written, in small letters, whoever the user is; and a word in such an endpoint that fits neither
    a scheme nor a port is a word in its user or in its host.
-/

namespace CallTransfer

/-! ### Parts of a text -/

namespace Text

variable {part s t : List α} {sep : α}

/-- A part without a separator that starts a text starts the field before its first separator. -/
theorem isPrefix_of_not_mem (h : part <+: s ++ sep :: t) (hn : sep ∉ part) : part <+: s := by
  rcases List.prefix_or_prefix_of_prefix h (List.prefix_append s (sep :: t)) with hp | ⟨rest, rfl⟩
  · exact hp
  · rw [List.prefix_append_right_inj] at h
    cases rest with
    | nil => exact ⟨[], by rw [List.append_nil, List.append_nil]⟩
    | cons c rest =>
      obtain rfl := (List.cons_prefix_cons.mp h).1
      exact absurd (List.mem_append_right s List.mem_cons_self) hn

/-- A part without a separator is on one side of a separator. -/
theorem isInfix_of_not_mem (h : part <:+: s ++ sep :: t) (hn : sep ∉ part) :
    part <:+: s ∨ part <:+: t := by
  induction s with
  | nil =>
    rcases List.infix_cons_iff.mp h with hp | hi
    · have hnil := isPrefix_of_not_mem (s := []) hp hn
      exact Or.inl hnil.isInfix
    · exact Or.inr hi
  | cons c s ih =>
    rcases List.infix_cons_iff.mp h with hp | hi
    · exact Or.inl (isPrefix_of_not_mem (s := c :: s) hp hn).isInfix
    · exact (ih hi).imp_left List.infix_cons

end Text

namespace Url

open Text (lower lowerChar)

variable {s : List Char}

/-! ### No addresses -/

theorem foldlM_eq_none_of_mem {f : β → α → Option β} {a : α} {l : List α} (h : a ∈ l)
    (hf : ∀ b, f b a = none) (b : β) : l.foldlM f b = none := by
  induction l generalizing b with
  | nil => cases h
  | cons first l ih =>
    rw [List.foldlM_cons]
    rcases List.mem_cons.mp h with rfl | h
    · rw [hf]
      rfl
    · cases f b first with
      | none => rfl
      | some next => exact ih h next

/-- What is no digit and does not tell a base is in no number. -/
theorem Ipv4.number?_eq_none_of_mem {c : Char} (hv : Text.Hex.value? c = none)
    (hx : c ∉ ['0', 'x', 'X']) (h : c ∈ s) : number? s = none := by
  have hdigits (base : Nat) {t : List Char} (hm : c ∈ t) : inBase? base t = none := by
    refine foldlM_eq_none_of_mem hm (fun n => ?_) 0
    rw [hv]
    rfl
  unfold number?
  split
  · rfl
  · exact hdigits 16 (by simp_all)
  · exact hdigits 16 (by simp_all)
  · exact hdigits 8 (by simp_all)
  · exact hdigits 10 h

/-- A text with a letter that is no digit is no address. -/
theorem Ipv4.parse?_eq_none_of_mem {c : Char} (hv : Text.Hex.value? c = none)
    (hx : c ∉ ['.', '0', 'x', 'X']) (h : c ∈ s) : parse? s = none := by
  simp only [List.mem_cons, not_or] at hx
  obtain ⟨field, hf, hc⟩ := Text.exists_field_of_mem h hx.1
  have hmem : field ∈ fieldsOf s := by
    unfold fieldsOf
    simp only
    split
    · rename_i he
      obtain ⟨front, hlast⟩ := List.getLast?_eq_some_iff.mp he.2
      rw [hlast] at hf ⊢
      rw [List.dropLast_concat]
      rcases List.mem_append.mp hf with hf | hf
      · exact hf
      · rw [List.mem_singleton.mp hf] at hc
        cases hc
    · exact hf
  have hnone : number? field = none := number?_eq_none_of_mem hv (by simpa using hx.2) hc
  unfold parse?
  simp only
  split
  · rfl
  · cases hm : (fieldsOf s).mapM number? with
    | none => rfl
    | some ns =>
      obtain ⟨n, -, hn⟩ := Idna.exists_mem_of_mapM hm hmem
      rw [hnone] at hn
      cases hn

/-- A host in ASCII with such a letter is a name. -/
theorem Host.ofAscii_of_mem {c : Char} (hv : Text.Hex.value? c = none)
    (hx : c ∉ ['.', '0', 'x', 'X']) (h : c ∈ s) {host : Host} (hs : ofAscii s = .ok host) :
    host = .name s := by
  unfold ofAscii at hs
  split at hs
  · cases hs
  · split at hs
    · rw [Ipv4.parse?_eq_none_of_mem hv hx h] at hs
      cases hs
    · exact (Except.ok.inj hs).symm

/-! ### User, host and port -/

/-- A user stands before the last at sign. -/
theorem splitUser_append {place : List Char} (h : '@' ∉ place) (user : List Char) :
    splitUser (user ++ '@' :: place) = (some user, place) := by
  have hbehind : ((user ++ '@' :: place).reverse.takeWhile (· != '@')).reverse = place := by
    have hp : ∀ c ∈ place.reverse, (c != '@') = true :=
      fun c hc => bne_iff_ne.mpr fun e => h (e ▸ List.mem_reverse.mp hc)
    have hstop : ('@' :: user.reverse).takeWhile (· != '@') = [] := rfl
    rw [List.reverse_append, List.reverse_cons, List.append_assoc, List.singleton_append,
      List.takeWhile_append_of_pos hp, hstop, List.append_nil, List.reverse_reverse]
  have hlength : (user ++ '@' :: place).length = user.length + (place.length + 1) := by
    rw [List.length_append, List.length_cons]
  have hfront : (user ++ '@' :: place).length - place.length - 1 = user.length := by omega
  unfold splitUser
  simp only [hbehind]
  rw [if_neg (by omega), hfront, List.take_left]

theorem splitUser_eq (s : List Char) :
    s = (splitUser s).1.elim [] (· ++ ['@']) ++ (splitUser s).2 := by
  by_cases h : '@' ∈ s
  · obtain ⟨place, user, hs, hn⟩ := List.eq_append_cons_of_mem (List.mem_reverse.mpr h)
    have hsplit : s = user.reverse ++ '@' :: place.reverse := by
      rw [← List.reverse_reverse s, hs, List.reverse_append, List.reverse_cons, List.append_assoc,
        List.singleton_append]
    rw [hsplit, splitUser_append (mt List.mem_reverse.mp hn), Option.elim_some, List.append_assoc,
      List.singleton_append]
  · rw [splitUser_of_not_mem h]
    rfl

theorem splitPort_eq (inBrackets : Bool) (s : List Char) : s = (splitPort inBrackets s).1 ++
    (splitPort inBrackets s).2.elim [] (':' :: ·) := by
  induction s generalizing inBrackets with
  | nil => rfl
  | cons c s ih =>
    unfold splitPort
    split
    · rename_i hc
      obtain rfl : c = ':' := eq_of_beq (Bool.and_eq_true_iff.mp hc).1
      rfl
    · exact congrArg (c :: ·) (ih _)

/-- The host of an authority is read from what stands between the user and the port, which is in
    digits. -/
theorem of_readAuthority {default : Option Nat} {authority : Authority}
    (h : readAuthority default s = .ok authority) :
    Host.ofSpecial (splitPort false (splitUser s).2).1 = .ok authority.host ∧
      ((splitPort false (splitUser s).2).2.getD []).all Numeral.isDigit = true := by
  unfold readAuthority at h
  simp only at h
  split at h
  · cases h
  · obtain ⟨host, hh, h⟩ := Check.bind_eq_ok_iff.mp h
    obtain ⟨port, hp, h⟩ := Check.bind_eq_ok_iff.mp h
    cases h
    refine ⟨hh, ?_⟩
    unfold readPort at hp
    split at hp
    · cases hp
    · rename_i hd
      simpa using hd

end Url

namespace Domain

open Text (lower lowerChar)
open Url (isHostChar isOuterBlank isSlash)

/-- The user and the host of an endpoint as they are written, if they are all that is there but for
    a scheme and two slashes in front of them and a port and slashes behind them, and if the host is
    in ASCII without a label in ASCII form. -/
def written? (domain : String) : Option (List Char × List Char) :=
  match Url.splitScheme? (bare domain).toList with
  | some (_, '/' :: '/' :: place) =>
    let host := (Url.splitPort false (Url.splitUser place).2).1
    if place.all (fun c => !isOuterBlank c && !isSlash true c) &&
        host.all (fun c => isHostChar c && decide ((lowerChar c).toNat ≤ 0x7F)) &&
        !Idna.hasEncodedLabel (lower host) then
      some ((Url.splitUser place).1.getD [], host)
    else none
  | _ => none

/-- Where user and host of an endpoint are. -/
structure IsWritten (domain : String) (scheme place user host : List Char) : Prop where
  slashes : Url.splitScheme? (bare domain).toList = some (scheme, '/' :: '/' :: place)
  atSign : (Url.splitUser place).1.getD [] = user
  colon : (Url.splitPort false (Url.splitUser place).2).1 = host
  ink : ∀ c ∈ place, isOuterBlank c = false
  noSlash : ∀ c ∈ place, isSlash true c = false
  hostChar : ∀ c ∈ host, isHostChar c = true
  ascii : ∀ c ∈ host, (lowerChar c).toNat ≤ 0x7F
  noCode : Idna.hasEncodedLabel (lower host) = false

theorem exists_isWritten {domain : String} {user host : List Char}
    (h : written? domain = some (user, host)) :
    ∃ scheme place, IsWritten domain scheme place user host := by
  unfold written? at h
  split at h
  · rename_i scheme place hs
    simp only at h
    split at h
    · rename_i hc
      cases h
      simp only [Bool.and_eq_true, List.all_eq_true, decide_eq_true_eq, Bool.not_eq_true'] at hc
      exact ⟨scheme, place, {
        slashes := hs, atSign := rfl, colon := rfl
        ink := fun c h => (hc.1.1 c h).1
        noSlash := fun c h => (hc.1.1 c h).2
        hostChar := fun c h => (hc.1.2 c h).1
        ascii := fun c h => (hc.1.2 c h).2
        noCode := hc.2 }⟩
    · cases h
  · cases h

section Written
variable {domain : String} {base : Url} {user host part : List Char}

/-- The host that is called is read from the one that is written. -/
theorem ofSpecial_of_written (hw : written? domain = some (user, host))
    (hd : parse domain = .ok base) :
    ∃ called, Url.Host.ofSpecial host = .ok called ∧ base.host? = some called := by
  obtain ⟨scheme, place, h⟩ := exists_isWritten hw
  obtain ⟨-, authority, hbase, ha⟩ := Url.authority_of_bare h.slashes h.ink h.noSlash hd
  have hspecial := (Url.of_readAuthority ha).1
  rw [h.colon] at hspecial
  obtain ⟨-, -, called, hcalled, -⟩ := parse_eq_ok_iff.mp hd
  have hhost := hcalled
  rw [Url.host?, hbase, Option.map_some, Option.filter_eq_some_iff] at hhost
  rw [← Option.some.inj hhost.1] at hcalled
  exact ⟨authority.host, hspecial, hcalled⟩

/-- The host that is called is the one that is written, in small letters, if a letter in it is no
    digit. -/
theorem host_of_written (hw : written? domain = some (user, host)) (hd : parse domain = .ok base)
    {c : Char} (hv : Text.Hex.value? c = none) (hx : c ∉ ['.', '0', 'x', 'X'])
    (h : c ∈ lower host) : base.host? = some (.name (lower host)) := by
  obtain ⟨called, hspecial, hcalled⟩ := ofSpecial_of_written hw hd
  obtain ⟨scheme, place, hwritten⟩ := exists_isWritten hw
  rw [Url.Host.ofSpecial_of_isHostChar hwritten.hostChar,
    Idna.toAscii?_eq_lower hwritten.ascii hwritten.noCode] at hspecial
  split at hspecial
  · rename_i ascii hascii
    split at hascii
    · cases hascii
    · cases hascii
      rw [hcalled, Url.Host.ofAscii_of_mem hv hx h hspecial]
  · cases hspecial

/-- A part of the endpoint that holds no sign of it and fits neither its scheme nor its port is part
    of its user or of its host. -/
theorem isInfix_of_written (hw : written? domain = some (user, host)) (hd : parse domain = .ok base)
    (h : part <:+: domain.toList) (hsign : ∀ sign ∈ [':', '/', '@'], sign ∉ part)
    (ha : 'a' ∈ part) : part <:+: user ∨ part <:+: host := by
  obtain ⟨scheme, place, hwritten⟩ := exists_isWritten hw
  obtain ⟨rfl, authority, -, hread⟩ :=
    Url.authority_of_bare hwritten.slashes hwritten.ink hwritten.noSlash hd
  obtain ⟨name, hname, -, -, hlower⟩ := Url.splitScheme?_eq_some_iff.mp hwritten.slashes
  have hcolon : ':' ∉ part := hsign ':' (by decide)
  have hslash : '/' ∉ part := hsign '/' (by decide)
  have hat : '@' ∉ part := hsign '@' (by decide)
  -- slashes at the end
  obtain ⟨slashes, htext, hslashes⟩ := Url.dropEndWhile_append_takeEnd (· == '/') domain.toList
  have hbare : part <:+: (bare domain).toList := by
    rw [htext] at h
    rw [bare, String.toList_ofList]
    cases slashes with
    | nil => rwa [List.append_nil] at h
    | cons c slashes =>
      obtain rfl : c = '/' := eq_of_beq (hslashes c List.mem_cons_self)
      refine (Text.isInfix_of_not_mem h hslash).resolve_right fun hi => ?_
      have hm := hslashes 'a' (List.mem_cons_of_mem _ (hi.mem ha))
      cases hm
  -- the scheme
  have hplain : part <:+: place := by
    rw [hname] at hbare
    rcases Text.isInfix_of_not_mem hbare hcolon with hi | hi
    · have hm : 'a' ∈ base.scheme := hlower ▸ List.mem_map.mpr ⟨'a', hi.mem ha, by decide⟩
      obtain ⟨-, -, host, -, ho⟩ := parse_eq_ok_iff.mp hd
      have ht := (originFault?_eq_none_iff.mp ho).1
      simp only [isTrusted, Bool.or_eq_true, Bool.and_eq_true, beq_iff_eq] at ht
      rcases ht with ht | ⟨ht, -⟩ <;> (rw [ht] at hm; exact absurd hm (by decide))
    · have hnil : ¬ part <:+: [] := fun hn => List.not_mem_nil (hn.mem ha)
      have hi := (Text.isInfix_of_not_mem (s := []) hi hslash).resolve_left hnil
      exact (Text.isInfix_of_not_mem (s := []) hi hslash).resolve_left hnil
  -- the user
  rw [← hwritten.atSign]
  have hsite : part <:+: (Url.splitUser place).1.getD [] ∨ part <:+: (Url.splitUser place).2 := by
    rw [Url.splitUser_eq place] at hplain
    cases hu : (Url.splitUser place).1 with
    | none =>
      rw [hu, Option.elim_none, List.nil_append] at hplain
      exact Or.inr hplain
    | some user =>
      rw [hu, Option.elim_some, List.append_assoc, List.singleton_append] at hplain
      exact Text.isInfix_of_not_mem hplain hat
  refine hsite.imp_right fun hsite => ?_
  -- the port
  have hport := (Url.of_readAuthority hread).2
  rw [← hwritten.colon]
  rw [Url.splitPort_eq false (Url.splitUser place).2] at hsite
  cases hp : (Url.splitPort false (Url.splitUser place).2).2 with
  | none => rwa [hp, Option.elim_none, List.append_nil] at hsite
  | some port =>
    rw [hp, Option.elim_some] at hsite
    rw [hp, Option.getD_some] at hport
    refine (Text.isInfix_of_not_mem hsite hcolon).resolve_right fun hi => ?_
    have hm := List.all_eq_true.mp hport 'a' (hi.mem ha)
    cases hm

end Written

end Domain

end CallTransfer
