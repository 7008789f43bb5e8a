import VersionStamp.Proofs.Outcome
import VersionStamp.Release.Basic

/-! Releases that consist of digits.

Components that were accepted are digits, and the forms of a release put nothing but
their separators between them.
-/

namespace VersionStamp

open VersionStamp.Release VersionStamp.Text

/-- A release of accepted components whose build number has digits alone. -/
structure Release.IsNumeric (release : Release) : Prop where
  accepted : ∃ inputs, Components.ofInputs inputs = .ok release.components
  buildNumber : ∀ c ∈ release.buildNumber.toList, c.isDigit = true

namespace Release

theorem Components.forall_mem_toList {components : Components} {property : String → Prop} :
    (∀ text ∈ components.toList, property text) ↔
      property components.major ∧ property components.minor ∧ property components.patch ∧
        property components.material := by
  simp [toList]

theorem isNumeral_of_numeral {part : Part} {input text : String}
    (accepted : numeral part input = .ok text) : isNumeral text.toList = true := by
  simp only [numeral] at accepted
  split at accepted
  · rename_i digits
    cases accepted
    exact digits
  · cases accepted

theorem Components.ofInputs_eq_ok {inputs components : Components}
    (accepted : Components.ofInputs inputs = .ok components) :
    numeral .major inputs.major = .ok components.major ∧
      numeral .minor inputs.minor = .ok components.minor ∧
      numeral .patch inputs.patch = .ok components.patch ∧
      numeral .material inputs.material = .ok components.material := by
  obtain ⟨major, first, accepted⟩ := bind_eq_ok.mp accepted
  obtain ⟨minor, second, accepted⟩ := bind_eq_ok.mp accepted
  obtain ⟨patch, third, accepted⟩ := bind_eq_ok.mp accepted
  obtain ⟨material, fourth, accepted⟩ := bind_eq_ok.mp accepted
  cases accepted
  exact ⟨first, second, third, fourth⟩

theorem Components.isNumeral_of_ofInputs {inputs components : Components}
    (accepted : Components.ofInputs inputs = .ok components) :
    ∀ text ∈ components.toList, isNumeral text.toList = true := by
  obtain ⟨major, minor, patch, material⟩ := Components.ofInputs_eq_ok accepted
  simp [toList, isNumeral_of_numeral major, isNumeral_of_numeral minor,
    isNumeral_of_numeral patch, isNumeral_of_numeral material]

theorem toNat_of_isDigit {c : Char} (digit : c.isDigit = true) :
    48 ≤ c.toNat ∧ c.toNat ≤ 57 := by
  simpa [Char.isDigit, UInt32.le_iff_toNat_le] using digit

theorem isBlank_of_isDigit {c : Char} (digit : c.isDigit = true) : isBlank c = false := by
  have bounds := toNat_of_isDigit digit
  simp [isBlank]
  omega

theorem trimChars_of_isNumeral {text : List Char} (digits : isNumeral text = true) :
    trimChars text = text := by
  simp only [isNumeral, Bool.and_eq_true, List.all_eq_true] at digits
  have kept (part : List Char) (all : ∀ c ∈ part, c.isDigit = true) :
      part.dropWhile isBlank = part := by
    cases part with
    | nil => rfl
    | cons c rest => simp [isBlank_of_isDigit (all c List.mem_cons_self)]
  rw [trimChars, kept text digits.2, kept text.reverse (by simpa using digits.2),
    List.reverse_reverse]

theorem numeral_of_isNumeral {text : String} (part : Part)
    (digits : isNumeral text.toList = true) : numeral part text = .ok text := by
  have trimmed : trim text = text := by
    rw [trim, trimChars_of_isNumeral digits, String.ofList_toList]
  simp [numeral, trimmed, digits]

theorem Components.ofInputs_self {components : Components}
    (digits : ∀ text ∈ components.toList, isNumeral text.toList = true) :
    Components.ofInputs components = .ok components := by
  obtain ⟨major, minor, patch, material⟩ := forall_mem_toList.mp digits
  simp [ofInputs, numeral_of_isNumeral _ major, numeral_of_isNumeral _ minor,
    numeral_of_isNumeral _ patch, numeral_of_isNumeral _ material, bind, Except.bind, pure,
    Except.pure]

theorem Components.exists_ofInputs_iff {components : Components} :
    (∃ inputs, Components.ofInputs inputs = .ok components) ↔
      ∀ text ∈ components.toList, isNumeral text.toList = true := by
  constructor
  · rintro ⟨inputs, accepted⟩
    exact isNumeral_of_ofInputs accepted
  · intro digits
    exact ⟨components, ofInputs_self digits⟩

theorem isNumeric_iff {release : Release} :
    release.IsNumeric ↔ (∀ text ∈ release.components.toList, isNumeral text.toList = true) ∧
      ∀ c ∈ release.buildNumber.toList, c.isDigit = true := by
  constructor
  · rintro ⟨accepted, digits⟩
    exact ⟨Components.exists_ofInputs_iff.mp accepted, digits⟩
  · rintro ⟨numerals, digits⟩
    exact ⟨Components.exists_ofInputs_iff.mpr numerals, digits⟩

instance (release : Release) : Decidable release.IsNumeric :=
  decidable_of_iff ((release.components.toList.all fun text => isNumeral text.toList) = true ∧
      release.buildNumber.toList.all Char.isDigit = true)
    (by rw [isNumeric_iff, List.all_eq_true, List.all_eq_true])

example : IsNumeric ⟨⟨"1", "02", "3", "45"⟩, "0010020345"⟩ ∧
    ¬ IsNumeric ⟨⟨"1", "02", "3", "45"⟩, "5-1"⟩ := by
  decide +kernel

/-- Digits and the marks that the forms of a release put between and behind them. -/
def isPlain (c : Char) : Bool :=
  c.isDigit || c == '.' || c == ',' || c == '"' || c == ';'

theorem isPlain_of_isDigit {c : Char} (digit : c.isDigit = true) : isPlain c = true := by
  simp [isPlain, digit]

namespace IsNumeric

variable {release : Release}

theorem isNumeral_part (numeric : release.IsNumeric) (text : String)
    (part : text ∈ release.components.toList) : isNumeral text.toList = true :=
  (isNumeric_iff.mp numeric).1 text part

theorem isDigit_of_mem (numeric : release.IsNumeric) (text : String)
    (part : text ∈ release.components.toList) {c : Char} (member : c ∈ text.toList) :
    c.isDigit = true := by
  have digits := numeric.isNumeral_part text part
  simp only [isNumeral, Bool.and_eq_true, List.all_eq_true] at digits
  exact digits.2 c member

end IsNumeric

theorem toList_separated (separator : String) (release : Release) :
    (release.separated separator).toList =
      release.components.major.toList ++ separator.toList ++ release.components.minor.toList ++
        separator.toList ++ release.components.patch.toList ++ separator.toList ++
        release.components.material.toList := by
  simp [separated, Components.toList]

theorem IsNumeric.mem_separated {release : Release} (numeric : release.IsNumeric)
    {separator : String} {c : Char} (member : c ∈ (release.separated separator).toList) :
    c.isDigit = true ∨ c ∈ separator.toList := by
  obtain ⟨major, minor, patch, material⟩ := Components.forall_mem_toList.mp
    fun text part => numeric.isDigit_of_mem text part
  rw [toList_separated] at member
  simp only [List.mem_append] at member
  rcases member with (((((digit | mark) | digit) | mark) | digit) | mark) | digit
  · exact .inl (major digit)
  · exact .inr mark
  · exact .inl (minor digit)
  · exact .inr mark
  · exact .inl (patch digit)
  · exact .inr mark
  · exact .inl (material digit)

theorem IsNumeric.separated_head {release : Release} (numeric : release.IsNumeric)
    (separator : String) :
    ∃ c rest, (release.separated separator).toList = c :: rest ∧ c.isDigit = true := by
  have numeral := numeric.isNumeral_part release.components.major
    (by simp [Components.toList])
  cases digits : release.components.major.toList with
  | nil => simp [digits, isNumeral] at numeral
  | cons c rest =>
      refine ⟨c, _, by rw [toList_separated, digits]; rfl, ?_⟩
      exact numeric.isDigit_of_mem release.components.major (by simp [Components.toList])
        (by simp [digits])

end Release

end VersionStamp
