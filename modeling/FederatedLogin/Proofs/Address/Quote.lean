import FederatedLogin.Address.Quote
import FederatedLogin.Proofs.Text.Case

/-!
# Quoted components

Every set of safe characters holds the percent sign and the hexadecimal digits, so a component that
is quoted consists of safe characters, and quoting it again changes nothing.
-/

namespace FederatedLogin.Address.Quote

/-- Whether what is quoted consists of safe characters. -/
structure KeepsQuotes (safe : Char → Bool) : Prop where
  percent : safe '%' = true
  digits : ∀ value < 16, safe (hexDigit value) = true

theorem keepsQuotes_userinfo : KeepsQuotes isUserinfoSafe := ⟨by decide, by decide⟩

theorem keepsQuotes_host : KeepsQuotes isHostSafe := ⟨by decide, by decide⟩

theorem keepsQuotes_path : KeepsQuotes isPathSafe := ⟨by decide, by decide⟩

theorem keepsQuotes_query : KeepsQuotes isQuerySafe := ⟨by decide, by decide⟩

theorem keepsQuotes_fragment : KeepsQuotes isFragmentSafe := ⟨by decide, by decide⟩

variable {safe : Char → Bool} {component : List Char}

theorem quote_append (safe : Char → Bool) (before after : List Char) :
    quote safe (before ++ after) = quote safe before ++ quote safe after :=
  List.flatMap_append

theorem quote_cons (safe : Char → Bool) (value : Char) (rest : List Char) :
    quote safe (value :: rest) = quoteChar safe value ++ quote safe rest :=
  List.flatMap_cons

theorem quoteChar_ne_nil (safe : Char → Bool) (value : Char) : quoteChar safe value ≠ [] := by
  rw [quoteChar]
  by_cases kept : safe value
  · rw [if_pos kept]
    exact List.cons_ne_nil _ _
  · rw [if_neg kept]
    cases encoded : String.utf8EncodeChar value with
    | nil => exact absurd encoded String.utf8EncodeChar_ne_nil
    | cons byte rest => exact List.cons_ne_nil _ _

theorem quote_ne_nil (safe : Char → Bool) (nonempty : component ≠ []) :
    quote safe component ≠ [] := by
  cases component with
  | nil => exact absurd rfl nonempty
  | cons value rest =>
      rw [quote_cons]
      exact List.append_ne_nil_of_left_ne_nil (quoteChar_ne_nil safe value) _

/-- What is in quotes is the percent sign or a hexadecimal digit. -/
theorem eq_of_mem_quoteByte {byte : UInt8} {value : Char} (valueMem : value ∈ quoteByte byte) :
    value = '%' ∨ ∃ digit < 16, value = hexDigit digit := by
  have bound : byte.toNat < 256 := byte.toNat_lt
  simp only [quoteByte, List.mem_cons, List.not_mem_nil, or_false] at valueMem
  rcases valueMem with rfl | rfl | rfl
  · exact .inl rfl
  · exact .inr ⟨_, by omega, rfl⟩
  · exact .inr ⟨_, by omega, rfl⟩

/-- A character that is not part of quotes comes from the component. -/
theorem mem_of_mem_quote {value : Char} (unlike : value ≠ '%' ∧ ∀ digit < 16, value ≠ hexDigit digit)
    (valueMem : value ∈ quote safe component) : value ∈ component := by
  rw [quote, List.mem_flatMap] at valueMem
  obtain ⟨original, originalMem, valueMem⟩ := valueMem
  rw [quoteChar] at valueMem
  by_cases kept : safe original
  · rw [if_pos kept, List.mem_singleton] at valueMem
    rwa [valueMem]
  · rw [if_neg kept, List.mem_flatMap] at valueMem
    obtain ⟨byte, _, byteMem⟩ := valueMem
    rcases eq_of_mem_quoteByte byteMem with percent | ⟨digit, bound, isDigit⟩
    · exact absurd percent unlike.1
    · exact absurd isDigit (unlike.2 digit bound)

namespace KeepsQuotes

variable (keeps : KeepsQuotes safe)
include keeps

theorem safe_of_mem_quoteByte {byte : UInt8} {value : Char} (valueMem : value ∈ quoteByte byte) :
    safe value = true := by
  rcases eq_of_mem_quoteByte valueMem with rfl | ⟨digit, bound, rfl⟩
  · exact keeps.percent
  · exact keeps.digits digit bound

theorem safe_of_mem_quote {value : Char} (valueMem : value ∈ quote safe component) :
    safe value = true := by
  rw [quote, List.mem_flatMap] at valueMem
  obtain ⟨original, _, valueMem⟩ := valueMem
  rw [quoteChar] at valueMem
  by_cases kept : safe original
  · rw [if_pos kept, List.mem_singleton] at valueMem
    rw [valueMem, kept]
  · rw [if_neg kept, List.mem_flatMap] at valueMem
    obtain ⟨byte, _, byteMem⟩ := valueMem
    exact keeps.safe_of_mem_quoteByte byteMem

end KeepsQuotes

/-- What is quoted without a percent sign was safe before. -/
theorem quote_eq_self_of_not_mem (absent : '%' ∉ quote safe component) :
    quote safe component = component := by
  apply quote_eq_self
  intro value valueMem
  apply Decidable.byContradiction
  intro quoted
  apply absent
  have inQuotes : '%' ∈ quoteChar safe value := by
    rw [quoteChar, if_neg quoted, List.mem_flatMap]
    obtain ⟨byte, byteMem⟩ :=
      List.exists_mem_of_ne_nil _ (String.utf8EncodeChar_ne_nil : String.utf8EncodeChar value ≠ [])
    exact ⟨byte, byteMem, List.mem_cons_self ..⟩
  exact List.mem_flatMap.mpr ⟨value, valueMem, inQuotes⟩

/-- A safe character is none of those that are not. -/
theorem not_mem_of_safe {marks : List Char} (noneSafe : marks.any safe = false)
    {value : Char} (isSafe : safe value = true) : value ∉ marks := by
  intro markMem
  exact List.any_eq_false.mp noneSafe value markMem isSafe

/-! ## Visible characters -/

theorem isVisible_of_isFragmentSafe {value : Char} (safe : isFragmentSafe value) :
    isVisible value = true := by
  rw [isFragmentSafe, Bool.and_eq_true] at safe
  exact safe.1

theorem isVisible_of_isQuerySafe {value : Char} (safe : isQuerySafe value) :
    isVisible value = true := by
  rw [isQuerySafe, Bool.and_eq_true] at safe
  exact safe.1

theorem isQuerySafe_of_isPathSafe {value : Char} (safe : isPathSafe value) :
    isQuerySafe value = true := by
  rw [isPathSafe, Bool.and_eq_true] at safe
  exact safe.1

theorem isPathSafe_of_isUserinfoSafe {value : Char} (safe : isUserinfoSafe value) :
    isPathSafe value = true := by
  rw [isUserinfoSafe, Bool.and_eq_true] at safe
  exact safe.1

theorem isVisible_of_isHostSafe {value : Char} (safe : isHostSafe value) :
    isVisible value = true := by
  rw [isHostSafe, Bool.or_eq_true] at safe
  rcases safe with alphanumeric | listed
  · obtain ⟨least, most⟩ := Text.toNat_of_isAlphanum alphanumeric
    simp only [isVisible, Bool.and_eq_true, decide_eq_true_eq]
    omega
  · have marks : ['-', '.', '_', '~', '!', '$', '&', '\'', '(', ')', '*', '+', ',', ';',
        '=', '"', '`', '\x7b', '\x7d', '%', '|', '\\'].all isVisible = true := by
      decide
    exact List.all_eq_true.mp marks value (List.contains_iff_mem.mp listed)

end FederatedLogin.Address.Quote
