import FederatedLogin.Address.Basic
import FederatedLogin.HostName.Label
import FederatedLogin.Proofs.Address.Quote
import FederatedLogin.Proofs.Text.Case
import FederatedLogin.Proofs.Text.Separated

/-!
# Hosts in normal form

A host in normal form is a dotted quad, the literal of an IPv6 address, or a quoted name.  As it
stands in an address it can be read again: a quad and a literal stay as they are, a name comes out
in lower case throughout, quotes included.
-/

namespace FederatedLogin.Address.Host

open FederatedLogin.Text

/-! ## Characters -/

/-- A character that an authority and its host can be cut at, or that no address has. -/
def IsClean (value : Char) : Prop :=
  value ∉ ['/', '?', '#', '@'] ∧ isControl value = false

theorem isControl_of_isVisible {value : Char} (visible : Quote.isVisible value) :
    isControl value = false := by
  simp only [Quote.isVisible, Bool.and_eq_true, decide_eq_true_eq] at visible
  simp only [isControl, Bool.or_eq_false_iff, decide_eq_false_iff_not, beq_eq_false_iff_ne]
  omega

theorem isClean_of_isHostSafe {value : Char} (safe : Quote.isHostSafe value) : IsClean value := by
  constructor
  · exact Quote.not_mem_of_safe (by decide) safe
  · exact isControl_of_isVisible (Quote.isVisible_of_isHostSafe safe)

theorem isHostSafe_toLower {value : Char} (safe : Quote.isHostSafe value) :
    Quote.isHostSafe value.toLower := by
  rcases toLower_eq_or_isLower value with same | lower
  · rwa [same]
  · simp [Quote.isHostSafe, Char.isAlphanum, Char.isAlpha, lower]

/-! ## Forms of hosts -/

/-- The forms of a host. -/
inductive IsNormal : List Char → Prop where
  | quad (host : List Char) (looks : looksLikeQuad host) (isQuad : isIpv4 host) : IsNormal host
  | literal (host : List Char) (isLiteral : isIpv6 host)
      (clean : ∀ value ∈ host, IsClean value) : IsNormal host
  | name (host : List Char) (nonempty : host ≠ []) (unlike : looksLikeQuad host = false)
      (safe : ∀ value ∈ host, Quote.isHostSafe value) : IsNormal host

variable {host : List Char}

theorem digit_or_dot_of_looksLikeQuad (looks : looksLikeQuad host) :
    ∀ value ∈ host, value = '.' ∨ value.isDigit := by
  intro value valueMem
  simp only [looksLikeQuad, Bool.and_eq_true, List.all_eq_true] at looks
  rw [← joinAt_partsAt '.' host] at valueMem
  rcases mem_joinAt valueMem with dot | ⟨part, partMem, valueMem⟩
  · exact .inl dot
  · exact .inr ((looks.2 part partMem).2 value valueMem)

theorem isAlpha_eq_false_of_digit_or_dot {value : Char} (plain : value = '.' ∨ value.isDigit) :
    value.isAlpha = false := by
  rcases plain with rfl | digit
  · rfl
  · simp only [Char.isDigit, Bool.and_eq_true, decide_eq_true_eq, ge_iff_le,
      UInt32.le_iff_toNat_le] at digit
    rw [Bool.eq_false_iff]
    intro letter
    simp only [Char.isAlpha, Char.isUpper, Char.isLower, Bool.or_eq_true, Bool.and_eq_true,
      decide_eq_true_eq, ge_iff_le, UInt32.le_iff_toNat_le] at letter
    change 48 ≤ value.val.toNat ∧ value.val.toNat ≤ 57 at digit
    change (65 ≤ value.val.toNat ∧ value.val.toNat ≤ 90) ∨
      (97 ≤ value.val.toNat ∧ value.val.toNat ≤ 122) at letter
    omega

/-- What consists of digits and dots in lower case was that before. -/
theorem map_toLower_of_digit_or_dot
    (plain : ∀ value ∈ host.map Char.toLower, value = '.' ∨ value.isDigit) :
    host.map Char.toLower = host := by
  apply map_toLower_eq_self
  intro value valueMem
  rw [← Char.isAlpha_toLower_eq_isAlpha]
  exact isAlpha_eq_false_of_digit_or_dot (plain value.toLower (List.mem_map_of_mem valueMem))

/-- Only digits and dots stay what they are in a quad, so a name that comes to look like one did so
before. -/
theorem looksLikeQuad_quote_map_toLower
    (looks : looksLikeQuad (Quote.quote Quote.isHostSafe (host.map Char.toLower))) :
    looksLikeQuad host := by
  have plain := digit_or_dot_of_looksLikeQuad looks
  have unquoted : Quote.quote Quote.isHostSafe (host.map Char.toLower) = host.map Char.toLower := by
    apply Quote.quote_eq_self_of_not_mem
    intro percentMem
    rcases plain '%' percentMem with dot | digit
    · cases dot
    · cases digit
  rw [unquoted] at looks
  rwa [map_toLower_of_digit_or_dot (digit_or_dot_of_looksLikeQuad looks)] at looks

/-- A host that is not empty is a quad that stays, a literal without its brackets, or a name in
lower case and quoted. -/
theorem cases_of_normalize? {written : List Char} (nonempty : written ≠ [])
    (isHost : normalize? written = some host) :
    (looksLikeQuad written ∧ isIpv4 written ∧ host = written) ∨
      (isIpv6 host ∧ host ⊆ written) ∨
      (looksLikeQuad written = false ∧
        host = Quote.quote Quote.isHostSafe (written.map Char.toLower)) := by
  rw [normalize?, if_neg (by simpa using nonempty)] at isHost
  by_cases looks : looksLikeQuad written
  · rw [if_pos looks, Option.ite_none_right_eq_some] at isHost
    obtain ⟨isQuad, same⟩ := isHost
    exact .inl ⟨looks, isQuad, (Option.some.inj same).symm⟩
  · apply Or.inr
    rw [if_neg looks] at isHost
    by_cases bracketed : written.head? = some '[' ∧ written.getLast? = some ']'
    · simp only [if_pos bracketed, Option.ite_none_right_eq_some] at isHost
      obtain ⟨isLiteral, same⟩ := isHost
      cases same
      apply Or.inl
      constructor
      · exact isLiteral
      · intro value valueMem
        exact List.mem_of_mem_drop (List.dropLast_subset _ valueMem)
    · rw [if_neg bracketed, Option.ite_none_right_eq_some] at isHost
      obtain ⟨_, same⟩ := isHost
      exact .inr ⟨by simpa using looks, (Option.some.inj same).symm⟩

/-- What becomes of a host that is not empty is in normal form, if no character of it can be taken
for a cut. -/
theorem isNormal_of_normalize? {written : List Char} (nonempty : written ≠ [])
    (clean : ∀ value ∈ written, IsClean value) (isHost : normalize? written = some host) :
    IsNormal host := by
  rcases cases_of_normalize? nonempty isHost with
    ⟨looks, isQuad, rfl⟩ | ⟨isLiteral, within⟩ | ⟨unlike, rfl⟩
  · exact .quad host looks isQuad
  · exact .literal host isLiteral fun value valueMem => clean value (within valueMem)
  · apply IsNormal.name
    · apply Quote.quote_ne_nil
      simpa using nonempty
    · rw [Bool.eq_false_iff]
      intro quoted
      rw [looksLikeQuad_quote_map_toLower quoted] at unlike
      cases unlike
    · intro value valueMem
      exact Quote.keepsQuotes_host.safe_of_mem_quote valueMem

/-! ## Hosts as they stand in an address -/

theorem colon_mem_of_isIpv6 (isLiteral : isIpv6 host) : ':' ∈ host := by
  apply Decidable.byContradiction
  intro absent
  have whole : partsAt ':' (host.takeWhile (· != '%')) = [host.takeWhile (· != '%')] := by
    apply partsAt_of_not_mem
    intro colonMem
    exact absent ((host.takeWhile_prefix _).subset colonMem)
  simp [isIpv6, whole] at isLiteral

theorem isHostSafe_of_digit_or_dot {value : Char} (plain : value = '.' ∨ value.isDigit) :
    Quote.isHostSafe value := by
  rcases plain with rfl | digit
  · decide
  · simp [Quote.isHostSafe, Char.isAlphanum, digit]

/-- A host in normal form consists of safe characters, or is a literal. -/
theorem IsNormal.safe_or_isIpv6 (normal : IsNormal host) :
    (∀ value ∈ host, Quote.isHostSafe value) ∨
      isIpv6 host ∧ ∀ value ∈ host, IsClean value := by
  cases normal with
  | quad looks isQuad =>
      apply Or.inl
      intro value valueMem
      exact isHostSafe_of_digit_or_dot (digit_or_dot_of_looksLikeQuad looks value valueMem)
  | literal isLiteral clean => exact .inr ⟨isLiteral, clean⟩
  | name nonempty unlike safe => exact .inl safe

theorem IsNormal.ne_nil (normal : IsNormal host) : host ≠ [] := by
  rintro rfl
  cases normal with
  | quad looks isQuad => cases looks
  | literal isLiteral clean => cases isLiteral
  | name nonempty unlike safe => exact nonempty rfl

theorem colon_not_mem_of_safe (safe : ∀ value ∈ host, Quote.isHostSafe value) : ':' ∉ host := by
  intro colonMem
  cases safe ':' colonMem

theorem shownHost_of_safe (safe : ∀ value ∈ host, Quote.isHostSafe value) :
    shownHost host = host := by
  rw [shownHost, if_neg]
  simpa using colon_not_mem_of_safe safe

theorem shownHost_of_isIpv6 (isLiteral : isIpv6 host) : shownHost host = '[' :: host ++ [']'] := by
  rw [shownHost, if_pos]
  simpa using colon_mem_of_isIpv6 isLiteral

/-- A host stands in an address between brackets, or without a colon. -/
theorem IsNormal.shownHost_cases (normal : IsNormal host) :
    shownHost host = '[' :: host ++ [']'] ∨
      (shownHost host).head? ≠ some '[' ∧ ':' ∉ shownHost host := by
  rcases normal.safe_or_isIpv6 with safe | ⟨isLiteral, _⟩
  · rw [shownHost_of_safe safe]
    apply Or.inr
    constructor
    · intro bracket
      cases safe '[' (List.mem_of_mem_head? bracket)
    · exact colon_not_mem_of_safe safe
  · exact .inl (shownHost_of_isIpv6 isLiteral)

theorem IsNormal.isClean_of_mem_shownHost (normal : IsNormal host) {value : Char}
    (valueMem : value ∈ shownHost host) : IsClean value := by
  rcases normal.safe_or_isIpv6 with safe | ⟨isLiteral, clean⟩
  · rw [shownHost_of_safe safe] at valueMem
    exact isClean_of_isHostSafe (safe value valueMem)
  · rw [shownHost_of_isIpv6 isLiteral, List.mem_append, List.mem_cons, List.mem_singleton]
      at valueMem
    rcases valueMem with (rfl | hostMem) | rfl
    · exact ⟨by decide, by decide⟩
    · exact clean value hostMem
    · exact ⟨by decide, by decide⟩

theorem IsNormal.shownHost_ne_nil (normal : IsNormal host) : shownHost host ≠ [] := by
  rcases normal.safe_or_isIpv6 with safe | ⟨isLiteral, _⟩
  · rw [shownHost_of_safe safe]
    exact normal.ne_nil
  · rw [shownHost_of_isIpv6 isLiteral]
    exact List.cons_ne_nil _ _

/-- A host is known from how it stands in an address. -/
theorem shownHost_inj {other : List Char} (same : shownHost host = shownHost other) :
    host = other := by
  by_cases colon : ':' ∈ host
  · by_cases otherColon : ':' ∈ other
    · simpa [shownHost, colon, otherColon] using same
    · simp only [shownHost, List.contains_iff_mem, colon, otherColon, if_true, if_false] at same
      exact absurd (same ▸ by simp [colon]) otherColon
  · by_cases otherColon : ':' ∈ other
    · simp only [shownHost, List.contains_iff_mem, colon, otherColon, if_true, if_false] at same
      exact absurd (same ▸ by simp [otherColon]) colon
    · simpa [shownHost, colon, otherColon] using same

/-! ## Reading again -/

/-- What a host comes to when it is read again. -/
def again (host : List Char) : List Char :=
  if host.contains ':' then host else host.map Char.toLower

theorem again_of_safe (safe : ∀ value ∈ host, Quote.isHostSafe value) :
    again host = host.map Char.toLower := by
  rw [again, if_neg]
  simpa using colon_not_mem_of_safe safe

theorem again_of_isIpv6 (isLiteral : isIpv6 host) : again host = host := by
  rw [again, if_pos]
  simpa using colon_mem_of_isIpv6 isLiteral

theorem again_eq_self_iff :
    again host = host ↔ ':' ∈ host ∨ ∀ value ∈ host, value.isUpper = false := by
  by_cases colon : ':' ∈ host
  · simp [again, colon]
  · simp [again, colon, map_toLower_eq_self_iff]

theorem again_again (host : List Char) : again (again host) = again host := by
  by_cases colon : host.contains ':'
  · simp only [again, colon, if_true]
  · simp only [again, colon, Bool.false_eq_true, if_false, map_toLower_map_toLower, ite_self]

theorem colon_mem_again_iff : ':' ∈ again host ↔ ':' ∈ host := by
  rw [again]
  split
  · rfl
  · rw [List.mem_map]
    constructor
    · rintro ⟨value, valueMem, becomes⟩
      rcases toLower_eq_or_isLower value with same | lower
      · rwa [← becomes, same]
      · rw [becomes] at lower
        cases lower
    · intro colonMem
      exact ⟨':', colonMem, rfl⟩

theorem length_shownHost_again (host : List Char) :
    (shownHost (again host)).length = (shownHost host).length := by
  have length_eq : (again host).length = host.length := by
    rw [again]
    split
    · rfl
    · exact List.length_map _
  simp only [shownHost, List.contains_iff_mem, colon_mem_again_iff]
  split <;> simp [length_eq]

/-- A host in normal form is read again from an address. -/
theorem IsNormal.normalize?_shownHost (normal : IsNormal host) :
    normalize? (shownHost host) = some (again host) := by
  have nonempty : ¬ (shownHost host).isEmpty := by
    simpa using normal.shownHost_ne_nil
  rw [normalize?, if_neg nonempty]
  cases normal with
  | quad looks isQuad =>
      have plain := digit_or_dot_of_looksLikeQuad looks
      have safe : ∀ value ∈ host, Quote.isHostSafe value := fun value valueMem =>
        isHostSafe_of_digit_or_dot (plain value valueMem)
      have lower : host.map Char.toLower = host :=
        map_toLower_eq_self fun value valueMem =>
          isAlpha_eq_false_of_digit_or_dot (plain value valueMem)
      rw [shownHost_of_safe safe, again_of_safe safe, if_pos looks, if_pos isQuad, lower]
  | literal isLiteral clean =>
      have unlike : ¬ looksLikeQuad ('[' :: host ++ [']']) := by
        intro looks
        rcases digit_or_dot_of_looksLikeQuad looks '[' (by simp) with dot | digit
        · cases dot
        · cases digit
      have bracketed : ('[' :: host ++ [']']).head? = some '[' ∧
          ('[' :: host ++ [']']).getLast? = some ']' :=
        ⟨rfl, List.getLast?_concat⟩
      have inside : (('[' :: host ++ [']']).drop 1).dropLast = host := by
        simp
      rw [shownHost_of_isIpv6 isLiteral, again_of_isIpv6 isLiteral, if_neg unlike,
        if_pos bracketed]
      simp only [inside, if_pos isLiteral]
  | name isName unlike safe =>
      have unbracketed : ¬ (host.head? = some '[' ∧ host.getLast? = some ']') := by
        rintro ⟨bracket, _⟩
        cases safe '[' (List.mem_of_mem_head? bracket)
      have ascii : (host.all fun value => value.toNat < 0x80) = true := by
        rw [List.all_eq_true]
        intro value valueMem
        have visible := Quote.isVisible_of_isHostSafe (safe value valueMem)
        simp only [Quote.isVisible, Bool.and_eq_true, decide_eq_true_eq] at visible ⊢
        omega
      have lowerSafe : ∀ value ∈ host.map Char.toLower, Quote.isHostSafe value := by
        intro value valueMem
        obtain ⟨original, originalMem, rfl⟩ := List.mem_map.mp valueMem
        exact isHostSafe_toLower (safe original originalMem)
      rw [shownHost_of_safe safe, again_of_safe safe, if_neg (by simp [unlike]),
        if_neg unbracketed, if_pos ascii, Quote.quote_eq_self lowerSafe]

theorem IsNormal.again (normal : IsNormal host) : IsNormal (again host) :=
  isNormal_of_normalize? normal.shownHost_ne_nil (fun _ => normal.isClean_of_mem_shownHost)
    normal.normalize?_shownHost

/-- No character of a quoted name in lower case becomes part of the mark of Punycode by being put
in lower case again. -/
theorem toLower_eq_mark_iff {written : List Char} {value : Char}
    (valueMem : value ∈ Quote.quote Quote.isHostSafe (written.map Char.toLower)) :
    ∀ mark ∈ HostName.marker, value.toLower = mark ↔ value = mark := by
  intro mark markMem
  constructor
  · intro becomes
    have unquoted : value ≠ '%' ∧ ∀ digit < 16, value ≠ Quote.hexDigit digit := by
      have quotes : '%'.toLower ∉ HostName.marker ∧
          ∀ digit < 16, (Quote.hexDigit digit).toLower ∉ HostName.marker := by
        decide
      constructor
      · rintro rfl
        exact quotes.1 (becomes ▸ markMem)
      · rintro digit bound rfl
        exact quotes.2 digit bound (becomes ▸ markMem)
    obtain ⟨original, _, rfl⟩ := List.mem_map.mp (Quote.mem_of_mem_quote unquoted valueMem)
    rwa [Char.toLower_toLower_eq_toLower] at becomes
  · rintro rfl
    have lower : (HostName.marker.all fun mark => mark.toLower == mark) = true := by decide
    exact beq_iff_eq.mp (List.all_eq_true.mp lower value markMem)

/-- A host that is read again has the mark of Punycode in front if it had it before. -/
theorem isPrefixOf_marker_again {written : List Char} (nonempty : written ≠ [])
    (isHost : normalize? written = some host) :
    HostName.marker.isPrefixOf (again host) = HostName.marker.isPrefixOf host := by
  rcases cases_of_normalize? nonempty isHost with
    ⟨looks, _, rfl⟩ | ⟨isLiteral, _⟩ | ⟨_, rfl⟩
  · have lower : host.map Char.toLower = host :=
      map_toLower_eq_self fun value valueMem =>
        isAlpha_eq_false_of_digit_or_dot (digit_or_dot_of_looksLikeQuad looks value valueMem)
    rw [again, lower, ite_self]
  · rw [again_of_isIpv6 isLiteral]
  · rw [again_of_safe fun _ valueMem => Quote.keepsQuotes_host.safe_of_mem_quote valueMem]
    exact isPrefixOf_map fun _ valueMem => toLower_eq_mark_iff valueMem

end FederatedLogin.Address.Host
