import VersionStamp.Proofs.Release.Numeric

/-! When a build number is a numeral.

Every rule ends its number with digits that an operator typed. What stands before them is
made of digits too, except for the lead of the prefixed rule, which can be any text.
-/

namespace VersionStamp.Release

variable {components : Components} {number : String}

theorem isNumeral_append {before after : List Char} (numeral : isNumeral after = true) :
    isNumeral (before ++ after) = before.all Char.isDigit := by
  simp only [isNumeral, Bool.and_eq_true, Bool.not_eq_true', List.isEmpty_eq_false_iff] at numeral
  simp [isNumeral, numeral]

theorem ne_nil_of_isNumeral {text : List Char} (numeral : isNumeral text = true) : text ≠ [] := by
  rintro rfl
  contradiction

theorem all_of_isNumeral {text : List Char} (numeral : isNumeral text = true) :
    text.all Char.isDigit = true := by
  simp only [isNumeral, Bool.and_eq_true] at numeral
  exact numeral.2

theorem all_zeros (count : Nat) : (List.replicate count '0').all Char.isDigit = true := by
  rw [List.all_eq_true]
  intro c member
  rw [List.eq_of_mem_replicate member]
  rfl

theorem all_padded (width : Nat) {digits : String} (numeral : isNumeral digits.toList = true) :
    (padded width digits).toList.all Char.isDigit = true := by
  have typed := all_of_isNumeral numeral
  rw [padded, String.toList_ofList, List.leftpad, List.all_append, all_zeros, typed]
  rfl

theorem all_decimal (n : Nat) : (decimal n).toList.all Char.isDigit = true := by
  rw [decimal, String.toList_ofList, List.all_eq_true]
  intro c member
  exact Nat.isDigit_of_mem_toDigits (by decide) (by decide) member

theorem all_multiple {factor : Nat} {digits : String} (done : multiple factor digits = .ok number) :
    number.toList.all Char.isDigit = true := by
  rw [multiple] at done
  split at done
  · split at done
    · rw [← Except.ok.inj done]
      exact all_decimal _
    · cases done
  · cases done

theorem isNumeral_zeroPadded
    (parts : ∀ text ∈ components.toList, isNumeral text.toList = true)
    (done : Rule.zeroPadded.buildNumber components = .ok number) :
    isNumeral number.toList = true := by
  obtain ⟨major, minor, patch, material⟩ := Components.forall_mem_toList.mp parts
  rw [← Except.ok.inj done, String.toList_append, isNumeral_append material, String.toList_append,
    String.toList_append, List.all_append, List.all_append, all_padded 3 major,
    all_padded 3 minor, all_padded 2 patch]
  rfl

theorem isNumeral_arithmetic
    (parts : ∀ text ∈ components.toList, isNumeral text.toList = true)
    (done : Rule.arithmetic.buildNumber components = .ok number) :
    isNumeral number.toList = true := by
  obtain ⟨_, _, patch, material⟩ := Components.forall_mem_toList.mp parts
  obtain ⟨major, first, done⟩ := bind_eq_ok.mp done
  obtain ⟨minor, second, done⟩ := bind_eq_ok.mp done
  rw [← Except.ok.inj done, String.toList_append, isNumeral_append material, String.toList_append,
    String.toList_append, List.all_append, List.all_append, all_multiple first,
    all_multiple second, all_of_isNumeral patch]
  rfl

theorem isNumeral_prefixed {lead suffix : String} (numeral : isNumeral suffix.toList = true)
    (done : (Rule.prefixed lead suffix).buildNumber components = .ok number) :
    isNumeral number.toList = lead.toList.all Char.isDigit := by
  rw [← Except.ok.inj done, String.toList_append, isNumeral_append numeral]

end VersionStamp.Release
