import CallTransfer.Proofs.Url.Origin

/-!
    Endpoints in the clear. Such an endpoint must be on this machine, and that is decided by the
    TEXT of its host: `localhost`, or anything that begins with `127.`. Among addresses the
    beginning is that of the block 127/8 and of nothing else, however the address was given; but a
    name may begin so, too, and can be anyone's.
-/

namespace CallTransfer.Url

namespace Host

/-- Whether a host is this machine: `localhost`, or an address of the block 127/8. -/
def isThisMachine : Host → Bool
  | name text => text == "localhost".toList
  | ipv4 address => 127 * 16777216 ≤ address && address < 128 * 16777216
  | ipv6 _ => false

/-- Whether a host is a name that begins as the addresses of this machine do. -/
def isNamedAlike : Host → Bool
  | name text => "127.".toList.isPrefixOf text
  | _ => false

end Host

/-! ### Addresses -/

/-- Fields that are put together fill their bytes at most. -/
theorem Ipv4.combine_lt {bytes : Nat} {fields : List Nat} {address : Nat}
    (h : combine bytes fields = some address) : address < Nat.pow 256 bytes := by
  fun_induction combine bytes fields generalizing address with
  | case1 bytes n hn =>
    cases h
    exact hn
  | case2 bytes n hn => cases h
  | case3 bytes n ns _ hn ih =>
    obtain ⟨rest, hr, rfl⟩ := Option.map_eq_some_iff.mp h
    have hrest := ih hr
    calc n * Nat.pow 256 bytes + rest
        < n * Nat.pow 256 bytes + Nat.pow 256 bytes := Nat.add_lt_add_left hrest _
      _ = (n + 1) * Nat.pow 256 bytes := (Nat.succ_mul n _).symm
      _ ≤ 256 * Nat.pow 256 bytes := Nat.mul_le_mul_right _ hn
      _ = Nat.pow 256 (bytes + 1) := Nat.pow_succ'.symm
  | case4 bytes n ns _ hn => cases h
  | case5 => cases h

/-- An address has four bytes. -/
theorem Ipv4.lt_of_parse? {s : List Char} {address : Nat} (h : parse? s = some address) :
    address < 4294967296 := by
  simp only [parse?] at h
  split at h
  · cases h
  · obtain ⟨fields, -, hc⟩ := Option.bind_eq_some_iff.mp h
    exact combine_lt hc

/-- A host that has been read as an address has four bytes. -/
theorem Host.lt_of_ofSpecial {s : List Char} {address : Nat}
    (h : ofSpecial s = .ok (.ipv4 address)) : address < 4294967296 := by
  have hascii : ∀ t, ofAscii t = .ok (.ipv4 address) → address < 4294967296 := by
    intro t ht
    unfold ofAscii at ht
    split at ht
    · cases ht
    · split at ht
      · split at ht
        · rename_i hp
          cases ht
          exact Ipv4.lt_of_parse? hp
        · cases ht
      · cases ht
  unfold ofSpecial at h
  split at h
  · unfold ofBracketed at h
    split at h
    · split at h <;> cases h
    · cases h
  · split at h
    · exact hascii _ h
    · cases h

theorem lt_of_readAuthority {default : Option Nat} {s : List Char} {authority : Authority}
    {address : Nat} (h : readAuthority default s = .ok authority)
    (ha : authority.host = .ipv4 address) : address < 4294967296 := by
  unfold readAuthority at h
  simp only at h
  split at h
  · cases h
  · obtain ⟨host, hh, h⟩ := Check.bind_eq_ok_iff.mp h
    obtain ⟨port, -, h⟩ := Check.bind_eq_ok_iff.mp h
    cases h
    obtain rfl : host = .ipv4 address := ha
    exact Host.lt_of_ofSpecial hh

/-! ### The text of a host -/

/-- No dot is in digits. -/
theorem dot_not_mem_digits (n : Nat) : '.' ∉ Numeral.digits n := by
  intro h
  have hd := List.all_eq_true.mp (Numeral.all_isDigit_digits n) '.' h
  revert hd
  decide

/-- A text up to its first dot begins another one exactly when that has the same up to its own. -/
theorem concat_dot_isPrefixOf_iff {s t : List Char} (hs : '.' ∉ s) (ht : '.' ∉ t)
    (rest : List Char) : (s ++ ['.']).isPrefixOf (t ++ '.' :: rest) = true ↔ s = t := by
  have hcut : ∀ u : List Char, cut '.' ('.' :: u) = ([], some u) := fun u => rfl
  rw [List.isPrefixOf_iff_prefix]
  constructor
  · rintro ⟨more, h⟩
    rw [List.append_assoc, List.singleton_append] at h
    have hc := congrArg (fun u => (cut '.' u).1) h
    simpa only [cut_append hs, cut_append ht, hcut, List.append_nil] using hc
  · rintro rfl
    exact ⟨rest, by rw [List.append_assoc]; rfl⟩

/-- The written form of an address begins with its highest byte. -/
theorem Ipv4.isPrefixOf_render_iff (address : Nat) :
    "127.".toList.isPrefixOf (render address) = true ↔ address / 16777216 % 256 = 127 := by
  have hp : "127.".toList = Numeral.digits 127 ++ ['.'] := by decide +kernel
  rw [hp, render, List.append_assoc, List.append_assoc]
  constructor
  · intro h
    have hd := (concat_dot_isPrefixOf_iff (dot_not_mem_digits _) (dot_not_mem_digits _) _).mp h
    rw [← Numeral.value_digits (address / 16777216 % 256), ← hd, Numeral.value_digits]
  · intro h
    rw [h]
    exact (concat_dot_isPrefixOf_iff (dot_not_mem_digits _) (dot_not_mem_digits _) _).mpr rfl

/-- What is taken for this machine is this machine or a name that begins like it, and no other
    address. -/
theorem isLoopback_render {host : Host}
    (hb : ∀ address, host = .ipv4 address → address < 4294967296) :
    Domain.isLoopback host.render = (host.isThisMachine || host.isNamedAlike) := by
  cases host with
  | name text => rfl
  | ipv4 address =>
    have hlt := hb address rfl
    have hn : (Ipv4.render address == "localhost".toList) = false := by
      refine beq_false_of_ne fun h => ?_
      have hm : '.' ∈ Ipv4.render address := by simp [Ipv4.render]
      rw [h] at hm
      revert hm
      decide
    have hblock : address / 16777216 % 256 = 127 ↔
        127 * 16777216 ≤ address ∧ address < 128 * 16777216 := by
      omega
    have hname : (Host.ipv4 address).isNamedAlike = false := rfl
    rw [Domain.isLoopback, Host.render, hn, Bool.false_or, hname, Bool.or_false, Bool.eq_iff_iff,
      Ipv4.isPrefixOf_render_iff, hblock]
    simp [Host.isThisMachine]
  | ipv6 groups => rfl

/-! ### Endpoints -/

/-- The host of an endpoint, and that the endpoint is trusted for it. -/
theorem exists_host_of_endpoint {domain : String} {url : Url} (hd : Domain.parse domain = .ok url) :
    ∃ host, url.host? = some host ∧ Domain.isTrusted url.scheme host.render = true ∧
      ∀ address, host = .ipv4 address → address < 4294967296 := by
  obtain ⟨-, hu, host, hh, ho⟩ := Domain.parse_eq_ok_iff.mp hd
  obtain ⟨ht, -, hq, hf, -⟩ := Domain.originFault?_eq_none_iff.mp ho
  obtain ⟨rest, -, -, -, authority, ha, hauth, -⟩ :=
    exists_rest_of_parse hu (Domain.kind_of_isTrusted ht) hq hf
  refine ⟨host, hh, ht, ?_⟩
  rintro address rfl
  obtain ⟨hmap, -⟩ := Option.filter_eq_some_iff.mp hh
  rw [hauth] at hmap
  exact lt_of_readAuthority ha (Option.some.inj hmap)

/-- IN THE CLEAR: what is sent to an endpoint is encrypted or stays on this machine, exactly unless
    the endpoint is in the clear at a host with a name that begins with `127.`. -/
theorem endpoint_secured_iff {domain : String} {url : Url} (hd : Domain.parse domain = .ok url) :
    ∃ host, url.host? = some host ∧
      (url.scheme = "https".toList ∨
          url.scheme = "http".toList ∧ host.isThisMachine = true ↔
        ¬ (url.scheme = "http".toList ∧ host.isNamedAlike = true)) := by
  obtain ⟨host, hh, ht, hb⟩ := exists_host_of_endpoint hd
  refine ⟨host, hh, ?_⟩
  have hne : "https".toList ≠ "http".toList := by decide
  have hapart : host.isThisMachine = true → host.isNamedAlike = false := by
    cases host with
    | name text =>
      intro h
      rw [Host.isNamedAlike, eq_of_beq h]
      decide
    | ipv4 address => exact fun _ => rfl
    | ipv6 groups => exact fun _ => rfl
  simp only [Domain.isTrusted, isLoopback_render hb, Bool.or_eq_true, Bool.and_eq_true,
    beq_iff_eq] at ht
  constructor
  · rintro (hs | ⟨-, hm⟩) ⟨hc, hn⟩
    · exact hne (hs.symm.trans hc)
    · rw [hapart hm] at hn
      cases hn
  · intro hn
    rcases ht with hs | ⟨hc, hm | hm⟩
    · exact Or.inl hs
    · exact Or.inr ⟨hc, hm⟩
    · exact absurd ⟨hc, hm⟩ hn

/-- An address in two parts, the first of them in hexadecimal. -/
theorem endpoint_secured_iff_shorthand :
    ∃ (url : Url) (host : Host), Domain.parse "http://0x7F.1:8080/" = .ok url ∧
      url.host? = some host ∧ url.scheme = "http".toList ∧ host.isThisMachine = true := by
  have hd : (Domain.parse "http://0x7F.1:8080/").map (fun url => (url.scheme, url.host?)) =
      .ok ("http".toList, some (.ipv4 2130706433)) := by
    decide +kernel
  obtain ⟨url, hd, he⟩ := Check.map_eq_ok_iff.mp hd
  obtain ⟨hs, hhost⟩ := Prod.mk.inj he
  obtain ⟨host, hh, hiff⟩ := endpoint_secured_iff hd
  obtain rfl : host = .ipv4 2130706433 := Option.some.inj (hh.symm.trans hhost)
  have hsafe := hiff.mpr fun ⟨_, hn⟩ => nomatch hn
  exact ⟨url, _, hd, hh, hs, (hsafe.resolve_left (by rw [hs]; decide)).2⟩

/-- A name in someone's domain that begins as an address of this machine. -/
theorem endpoint_secured_iff_someone_else :
    ∃ url : Url, Domain.parse "http://127.0.0.1.example.com" = .ok url ∧
      url.scheme = "http".toList ∧ url.host? = some (.name "127.0.0.1.example.com".toList) ∧
      Host.isThisMachine (.name "127.0.0.1.example.com".toList) = false := by
  have hd : (Domain.parse "http://127.0.0.1.example.com").map
      (fun url => (url.scheme, url.host?)) =
        .ok ("http".toList, some (.name "127.0.0.1.example.com".toList)) := by
    decide +kernel
  obtain ⟨url, hd, he⟩ := Check.map_eq_ok_iff.mp hd
  obtain ⟨hs, hh⟩ := Prod.mk.inj he
  exact ⟨url, hd, hs, hh, by decide⟩

end CallTransfer.Url
