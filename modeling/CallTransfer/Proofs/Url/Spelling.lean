import CallTransfer.Proofs.Idna.Letters
import CallTransfer.Proofs.Url.PlainOrigin

/-!
    The SPELLING of a host. A host that is written out, with nothing in percent-encoding and without
    a port, is the ASCII form of its name, so that its case does not count; and if it ends in a word
    it is a name, not an address.
-/

namespace CallTransfer.Url

open Idna (isWord toAscii?)
open Text (lower lowerChar)

/-- A character that stands for itself in a host. -/
def isHostChar (c : Char) : Bool := isPlaceChar c && !"%:[".toList.contains c

theorem isHostChar_iff {c : Char} :
    isHostChar c = true ↔ isPlaceChar c = true ∧ c ∉ "%:[".toList := by
  simp [isHostChar]

variable {s p : List Char}

/-! ### Names -/

/-- A text without a percent sign is not in percent-encoding. -/
theorem Host.domainName?_of_not_mem (h : '%' ∉ s) : domainName? s = toAscii? s := by
  have hkeep : Percent.encode (fun _ => false) s = s := List.flatMap_singleton' s
  have hbytes : Percent.decode s = Text.Utf8.encode (String.ofList s) := by
    rw [Text.Utf8.encode, String.toList_ofList, ← Percent.decode_encode (fun _ => false) h, hkeep]
  rw [domainName?, hbytes, Text.Utf8.decode?_encode, Option.bind_some, String.toList_ofList]

theorem not_mem_of_isHostChar (h : ∀ c ∈ s, isHostChar c = true) {sign : Char}
    (hs : isHostChar sign = false) : sign ∉ s := by
  intro hm
  rw [h sign hm] at hs
  cases hs

/-- A host that is written out is the ASCII form of its name. -/
theorem Host.ofSpecial_of_isHostChar (h : ∀ c ∈ s, isHostChar c = true) :
    ofSpecial s = match toAscii? s with
      | some ascii => ofAscii ascii
      | none => .error .domainName := by
  have hread : ofSpecial s = match domainName? s with
      | some ascii => ofAscii ascii
      | none => .error .domainName := by
    unfold ofSpecial
    split
    · exact absurd List.mem_cons_self (not_mem_of_isHostChar h (by decide : isHostChar '[' = false))
    · rfl
  rw [hread, domainName?_of_not_mem (not_mem_of_isHostChar h (by decide : isHostChar '%' = false))]

/-- A word starts with no decimal digit. -/
theorem Ipv4.head_of_isWord (hp : isWord p = true) : ∃ first rest, p = first :: rest ∧
    Numeral.isDigit first = false ∧ ∀ d, Text.Hex.value? first = some d → ¬ d < 10 := by
  obtain ⟨first, rest, rfl⟩ := List.exists_cons_of_ne_nil (Idna.isWord_iff.mp hp).1
  obtain ⟨hl, hh⟩ := (Idna.isWord_iff.mp hp).2 first List.mem_cons_self
  have hc : first.toNat < 0x7B := by omega
  exact ⟨first, rest, rfl, Text.of_forall_lt (p := fun c => 0x61 ≤ c.toNat →
    Numeral.isDigit c = false ∧ ∀ d, Text.Hex.value? c = some d → ¬ d < 10) (by decide) hc hl⟩

/-- A word is no number. -/
theorem Ipv4.number?_of_isWord (hp : isWord p = true) : number? p = none := by
  obtain ⟨first, rest, rfl, hdigit, hvalue⟩ := head_of_isWord hp
  have hzero : first ≠ '0' := by
    rintro rfl
    cases hdigit
  have hdecimal : inBase? 10 (first :: rest) = none := by
    unfold inBase?
    rw [List.foldlM_cons]
    cases hv : Text.Hex.value? first with
    | none => rfl
    | some d =>
      simp only [Option.bind_eq_bind, Option.bind_some, if_neg (hvalue d hv)]
      rfl
  unfold number?
  split <;> simp_all

/-- A host that ends in a word is no address. -/
theorem Ipv4.endsInNumber_concat (hp : isWord p = true) (s : List Char) :
    endsInNumber (s ++ '.' :: p) = false := by
  have hfields : fieldsOf (s ++ '.' :: p) = Text.fields '.' s ++ [p] := by
    rw [fieldsOf, Text.fields_append_cons, Idna.fields_of_isWord hp]
    simp [(Idna.isWord_iff.mp hp).1]
  have hdigits : p.all Numeral.isDigit = false := by
    obtain ⟨first, rest, rfl, hdigit, -⟩ := head_of_isWord hp
    rw [List.all_cons, hdigit, Bool.false_and]
  rw [endsInNumber, hfields, List.getLast?_concat]
  simp only
  rw [hdigits, number?_of_isWord hp, Bool.and_false]
  rfl

theorem Host.ofAscii_concat (hp : isWord p = true) (s : List Char) :
    ofAscii (s ++ '.' :: p) = .ok (.name (s ++ '.' :: p)) := by
  rw [ofAscii, if_neg (by simp), if_neg (by simp [Ipv4.endsInNumber_concat hp])]

theorem isHostChar_of_isWord (hp : isWord p = true) : ∀ c ∈ p, isHostChar c = true := by
  intro c hc
  obtain ⟨hl, hh⟩ := (Idna.isWord_iff.mp hp).2 c hc
  have hc : c.toNat < 0x7B := by omega
  exact Text.of_forall_lt (p := fun c => 0x61 ≤ c.toNat → isHostChar c = true) (by decide) hc hl

/-- A text with words around it, as the hosts of services are called. -/
def between (service company tld s : List Char) : List Char :=
  service ++ '.' :: (s ++ '.' :: company ++ '.' :: tld)

theorem between_ne_nil (service company tld s : List Char) : between service company tld s ≠ [] :=
  List.append_ne_nil_of_right_ne_nil _ (List.cons_ne_nil _ _)

section Between
variable {service company tld : List Char} (hs : isWord service = true)
  (hc : isWord company = true) (ht : isWord tld = true)
include hs hc ht

theorem isHostChar_between (hn : ∀ c ∈ s, isHostChar c = true) :
    ∀ c ∈ between service company tld s, isHostChar c = true := by
  have hdot : isHostChar '.' = true := by decide
  simp only [between, List.forall_mem_append, List.forall_mem_cons]
  exact ⟨isHostChar_of_isWord hs, hdot, ⟨hn, hdot, isHostChar_of_isWord hc⟩, hdot,
    isHostChar_of_isWord ht⟩

/-- Words around a text stand around what the text means. -/
theorem toAscii?_between (h : ∀ c ∈ s, (lowerChar c).toNat ≤ 0x7F) :
    toAscii? (between service company tld s) = (toAscii? s).map (between service company tld) := by
  have hcompany : ∀ c ∈ s ++ '.' :: company, (lowerChar c).toNat ≤ 0x7F :=
    List.forall_mem_append.mpr ⟨h, List.forall_mem_cons.mpr ⟨by decide,
      (Idna.isLowAscii_of_isWord hc).lowerChar_le⟩⟩
  have htld : ∀ c ∈ s ++ '.' :: company ++ '.' :: tld, (lowerChar c).toNat ≤ 0x7F :=
    List.forall_mem_append.mpr ⟨hcompany, List.forall_mem_cons.mpr ⟨by decide,
      (Idna.isLowAscii_of_isWord ht).lowerChar_le⟩⟩
  rw [between, Idna.toAscii?_cons hs htld, Idna.toAscii?_concat ht hcompany,
    Idna.toAscii?_concat hc h, Option.map_map, Option.map_map]
  rfl

/-- The host with words around a text is a name with what the text means. -/
theorem Host.ofSpecial_between (hn : ∀ c ∈ s, isHostChar c = true)
    (h : ∀ c ∈ s, (lowerChar c).toNat ≤ 0x7F) :
    ofSpecial (between service company tld s) = match toAscii? s with
      | some ascii => .ok (.name (between service company tld ascii))
      | none => .error .domainName := by
  rw [ofSpecial_of_isHostChar (isHostChar_between hs hc ht hn), toAscii?_between hs hc ht h]
  cases toAscii? s with
  | none => rfl
  | some ascii =>
    have hlast := ofAscii_concat ht (service ++ '.' :: (ascii ++ '.' :: company))
    rw [List.append_assoc, List.cons_append] at hlast
    exact hlast

end Between

/-! ### Authorities -/

/-- A text without an at sign holds no user. -/
theorem splitUser_of_not_mem (h : '@' ∉ s) : splitUser s = (none, s) := by
  have hp : ∀ c ∈ s.reverse, (c != '@') = true :=
    fun c hc => bne_iff_ne.mpr fun e => h (e ▸ List.mem_reverse.mp hc)
  rw [splitUser, List.takeWhile_eq_self_iff.mpr hp, List.reverse_reverse, if_pos rfl]

/-- A text without a colon holds no port. -/
theorem splitPort_of_not_mem (h : ':' ∉ s) (inBrackets : Bool) :
    splitPort inBrackets s = (s, none) := by
  induction s generalizing inBrackets with
  | nil => rfl
  | cons c s ih =>
    rw [List.mem_cons, not_or] at h
    have hc : (c == ':') = false := beq_false_of_ne (Ne.symm h.1)
    simp only [splitPort, hc, Bool.false_and, Bool.false_eq_true, if_false, ih h.2]

/-- An authority that is written out is a host. -/
theorem readAuthority_of_isHostChar (h : ∀ c ∈ s, isHostChar c = true) (hn : s ≠ [])
    (default : Option Nat) :
    readAuthority default s = (Host.ofSpecial s).map fun host => ⟨[], [], host, none⟩ := by
  have hat := not_mem_of_isHostChar h (by decide : isHostChar '@' = false)
  have hcolon := not_mem_of_isHostChar h (by decide : isHostChar ':' = false)
  have hempty : s.isEmpty = false := by simpa using hn
  have hport : readPort default [] = .ok none := rfl
  unfold readAuthority
  simp only [splitUser_of_not_mem hat, splitPort_of_not_mem hcolon, hempty, Option.getD_none]
  cases Host.ofSpecial s with
  | error fault => rfl
  | ok host =>
    rw [hport]
    rfl

/-- What is behind the scheme of an encrypted connection. -/
theorem splitScheme?_https {text : String} {rest : List Char}
    (ht : text.toList = "https://".toList ++ rest) :
    splitScheme? text.toList = some ("https".toList, '/' :: '/' :: rest) := by
  have hs : "https://".toList = "https".toList ++ [':', '/', '/'] := by decide
  refine splitScheme?_eq_some_iff.mpr ⟨"https".toList, ?_,
    Text.forall_of_all (by decide), by decide, by decide⟩
  rw [ht, hs, List.append_assoc]
  rfl

/-- The authority of an endpoint without blanks is read from its place, slashes at its end apart. -/
theorem authority_of_bare {domain : String} {base : Url} {scheme place : List Char}
    (hs : splitScheme? (Domain.bare domain).toList = some (scheme, '/' :: '/' :: place))
    (hb : ∀ c ∈ place, isOuterBlank c = false) (hp : ∀ c ∈ place, isSlash true c = false)
    (hd : Domain.parse domain = .ok base) :
    base.scheme = scheme ∧ ∃ authority, base.authority = some authority ∧
      readAuthority (defaultPort? scheme) place = .ok authority := by
  have hink := not_blank_of_splitScheme? hs hb
  obtain ⟨stem, slashes, rest, blanks, h⟩ := Domain.exists_isCut hd
  have hstem := h.scheme
  rw [dropWhile_of_forall hink,
    unbroken_of_forall fun c hc => isLineBlank_of_not_isOuterBlank (hink c hc), hs] at hstem
  obtain ⟨rfl, rfl⟩ := Prod.mk.inj (Option.some.inj hstem)
  obtain ⟨authority, ha, hbase⟩ := h.authority
  refine ⟨rfl, authority, hbase, ?_⟩
  rcases h.placeOf_stem.2 with hplace | ⟨front, c, hplace, hc⟩
  · rwa [← hplace, placeOf_of_not_isSlash hp] at ha
  · rw [placeOf_of_not_isSlash hp] at hplace
    rw [hb c (hplace ▸ List.mem_concat_self)] at hc
    cases hc

/-- A URL that is written out, under a scheme of the network and with a path that holds neither
    blanks nor signs: its authority is its host. -/
theorem parse_of_isHostChar {text : String} {scheme s path : List Char}
    (ht : splitScheme? text.toList = some (scheme, '/' :: '/' :: s ++ '/' :: path))
    (hk : Kind.ofScheme scheme = .network) (hs : ∀ c ∈ s, isHostChar c = true) (hn : s ≠ [])
    (hp : ∀ c ∈ path, isOuterBlank c = false) (hsign : ∀ sign ∈ ['#', '?'], sign ∉ path) :
    parse text = (Host.ofSpecial s).map fun host =>
      { scheme, authority := some ⟨[], [], host, none⟩
        path := .ofSegments (segmentsOf true path), query := none, fragment := none } := by
  have hplace : ∀ c ∈ s, isPlaceChar c = true := fun c hc => (isHostChar_iff.mp (hs c hc)).1
  obtain ⟨name, htext, hname, -, -⟩ := splitScheme?_eq_some_iff.mp ht
  have hink : ∀ c ∈ text.toList, isOuterBlank c = false := by
    rw [htext]
    simp only [List.forall_mem_append, List.forall_mem_cons]
    exact ⟨fun c hc => isOuterBlank_of_isSchemeChar (hname c hc), by decide,
      ⟨by decide, by decide, fun c hc => (not_blank_of_isPlaceChar (hplace c hc)).1⟩, by decide, hp⟩
  have hrest (sign : Char) (hm : sign ∈ ['#', '?']) : sign ∉ '/' :: '/' :: s ++ '/' :: path := by
    have hall : ∀ sign ∈ ['#', '?'], sign ≠ '/' ∧ sign ∈ "/\\?#@".toList :=
      Text.forall_of_all (by decide)
    have hslash := hall sign hm
    have hfront := not_mem_slashes hplace (by simpa using hslash.1) hslash.2
    simp only [List.mem_append, List.mem_cons, not_or]
    simp only [List.mem_cons, not_or] at hfront
    exact ⟨hfront, hslash.1, hsign sign hm⟩
  rw [parse_of_network ((clean_of_forall hink).symm ▸ ht) hk,
    cut_of_not_mem (hrest '#' (by decide)), cut_of_not_mem (hrest '?' (by decide)),
    readNetwork_slashes hplace hn,
    readAuthority_of_isHostChar hs hn]
  cases Host.ofSpecial s <;> rfl

/-- A URL that is written out without a path: its authority is its host, and its path is a slash. -/
theorem parse_of_isHostChar_nil {text : String} {scheme s : List Char}
    (ht : splitScheme? text.toList = some (scheme, '/' :: '/' :: s))
    (hk : Kind.ofScheme scheme = .network) (hs : ∀ c ∈ s, isHostChar c = true) (hn : s ≠ []) :
    parse text = (Host.ofSpecial s).map fun host =>
      { scheme, authority := some ⟨[], [], host, none⟩
        path := .segments [[]], query := none, fragment := none } := by
  have hplace : ∀ c ∈ s, isPlaceChar c = true := fun c hc => (isHostChar_iff.mp (hs c hc)).1
  have hink : ∀ c ∈ text.toList, isOuterBlank c = false :=
    not_blank_of_splitScheme? ht fun c hc => (not_blank_of_isPlaceChar (hplace c hc)).1
  have hbehind : behindPlace ('/' :: '/' :: s) = [] := by
    have hslash : ∀ c ∈ s, isSlash true c = false :=
      fun c hc => isSlash_of_isPlaceChar (hplace c hc)
    have hdrop : ('/' :: '/' :: s).dropWhile (isSlash true) = s := dropWhile_of_forall hslash
    rw [behindPlace, hdrop, List.dropWhile_eq_nil_iff.mpr fun c hc => by rw [hslash c hc]; rfl]
    rfl
  rw [parse_of_network ((clean_of_forall hink).symm ▸ ht) hk,
    cut_of_not_mem (not_mem_slashes hplace (by decide : '#' ∉ ['/', '/']) (by decide)),
    cut_of_not_mem (not_mem_slashes hplace (by decide : '?' ∉ ['/', '/']) (by decide)),
    readNetwork_eq, placeOf_slashes hplace, hbehind, readAuthority_of_isHostChar hs hn]
  cases Host.ofSpecial s <;> rfl

end CallTransfer.Url
