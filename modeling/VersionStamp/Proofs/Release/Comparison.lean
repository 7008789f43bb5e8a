import VersionStamp.Proofs.Release.Decimal

/-! The order of zero-padded build numbers.

As long as major, minor and patch fit the widths they are filled up to, the number is made of
four fields, of which only the last has no fixed width. So numbers with materials of one length
are ordered as the versions are, and a longer material can outweigh an earlier field.
-/

namespace VersionStamp.Release

variable {components one other : Components} {number another : String}

namespace Components

def values (components : Components) : List Nat :=
  components.toList.map fun text => valueOf text.toList

/-- The number in front of the material, with three digits for the minor and two for the
patch version. -/
def front (components : Components) : Nat :=
  (valueOf components.major.toList * 1000 + valueOf components.minor.toList) * 100 +
    valueOf components.patch.toList

/-- Accepted components that are not longer than the widths they are filled up to. -/
structure FitsWidths (components : Components) : Prop where
  accepted : ∃ inputs, Components.ofInputs inputs = .ok components
  major : components.major.length ≤ 3
  minor : components.minor.length ≤ 3
  patch : components.patch.length ≤ 2

/-- Accepted components without zeros in front, below the limits of their fields. -/
structure IsBounded (components : Components) : Prop where
  accepted : ∃ inputs, Components.ofInputs inputs = .ok components
  unpadded : ∀ text ∈ components.toList, isUnpadded text.toList = true
  major : valueOf components.major.toList ≤ 999
  minor : valueOf components.minor.toList ≤ 999
  patch : valueOf components.patch.toList ≤ 99

end Components

theorem length_padded {width : Nat} {digits : String} (fits : digits.length ≤ width) :
    (padded width digits).toList.length = width := by
  rw [padded, String.toList_ofList, List.length_leftpad, String.length_toList]
  omega

theorem valueOf_padded (width : Nat) (digits : String) :
    valueOf (padded width digits).toList = valueOf digits.toList := by
  rw [padded, String.toList_ofList, List.leftpad, valueOf_zeros]

theorem toList_zeroPadded (done : Rule.zeroPadded.buildNumber components = .ok number) :
    number.toList = (padded 3 components.major).toList ++ ((padded 3 components.minor).toList ++
      ((padded 2 components.patch).toList ++ components.material.toList)) := by
  rw [← Except.ok.inj done]
  simp only [String.toList_append, List.append_assoc]

namespace Components.FitsWidths

theorem all_material (fits : components.FitsWidths) :
    components.material.toList.all Char.isDigit = true := by
  obtain ⟨_, _, _, material⟩ := forall_mem_toList.mp (exists_ofInputs_iff.mp fits.accepted)
  exact all_of_isNumeral material

theorem material_lt (fits : components.FitsWidths) :
    valueOf components.material.toList < 10 ^ components.material.length :=
  valueOf_lt_of_length_le fits.all_material (Nat.le_refl _)

theorem minor_lt (fits : components.FitsWidths) : valueOf components.minor.toList < 1000 := by
  obtain ⟨_, minor, _, _⟩ := forall_mem_toList.mp (exists_ofInputs_iff.mp fits.accepted)
  exact valueOf_lt_of_length_le (all_of_isNumeral minor) fits.minor

theorem patch_lt (fits : components.FitsWidths) : valueOf components.patch.toList < 100 := by
  obtain ⟨_, _, patch, _⟩ := forall_mem_toList.mp (exists_ofInputs_iff.mp fits.accepted)
  exact valueOf_lt_of_length_le (all_of_isNumeral patch) fits.patch

theorem isNumeral_number (fits : components.FitsWidths)
    (done : Rule.zeroPadded.buildNumber components = .ok number) :
    isNumeral number.toList = true :=
  isNumeral_zeroPadded (exists_ofInputs_iff.mp fits.accepted) done

theorem length_number (fits : components.FitsWidths)
    (done : Rule.zeroPadded.buildNumber components = .ok number) :
    number.toList.length = 8 + components.material.length := by
  rw [toList_zeroPadded done]
  simp only [List.length_append, length_padded fits.major, length_padded fits.minor,
    length_padded fits.patch, String.length_toList]
  omega

theorem valueOf_number (fits : components.FitsWidths)
    (done : Rule.zeroPadded.buildNumber components = .ok number) :
    valueOf number.toList =
      components.front * 10 ^ components.material.length + valueOf components.material.toList := by
  rw [toList_zeroPadded done]
  simp only [valueOf_append, valueOf_padded, List.length_append, length_padded fits.minor,
    length_padded fits.patch, String.length_toList, front]
  ring

theorem front_lt_iff (first : one.FitsWidths) (second : other.FitsWidths) :
    one.front < other.front ↔
      valueOf one.major.toList < valueOf other.major.toList ∨
      valueOf one.major.toList = valueOf other.major.toList ∧
        (valueOf one.minor.toList < valueOf other.minor.toList ∨
        valueOf one.minor.toList = valueOf other.minor.toList ∧
          valueOf one.patch.toList < valueOf other.patch.toList) := by
  rw [front, front, position_lt_iff first.patch_lt second.patch_lt,
    position_lt_iff first.minor_lt second.minor_lt, position_inj first.minor_lt second.minor_lt]
  omega

theorem front_inj (first : one.FitsWidths) (second : other.FitsWidths) :
    one.front = other.front ↔
      valueOf one.major.toList = valueOf other.major.toList ∧
      valueOf one.minor.toList = valueOf other.minor.toList ∧
      valueOf one.patch.toList = valueOf other.patch.toList := by
  rw [front, front, position_inj first.patch_lt second.patch_lt,
    position_inj first.minor_lt second.minor_lt, and_assoc]

theorem lex_values_iff (first : one.FitsWidths) (second : other.FitsWidths) :
    List.Lex (· < ·) one.values other.values ↔
      one.front < other.front ∨ one.front = other.front ∧
        valueOf one.material.toList < valueOf other.material.toList := by
  rw [first.front_lt_iff second, first.front_inj second]
  simp only [values, toList, List.map_cons, List.map_nil, List.cons_lex_cons_iff,
    List.not_lex_nil, and_false, or_false]
  omega

theorem number_inj (first : one.FitsWidths) (second : other.FitsWidths)
    (done : Rule.zeroPadded.buildNumber one = .ok number)
    (done' : Rule.zeroPadded.buildNumber other = .ok another) :
    number = another ↔ one.front = other.front ∧ one.material = other.material := by
  have value := first.valueOf_number done
  have value' := second.valueOf_number done'
  constructor
  · rintro rfl
    -- eight digits stand in front, so the materials are equally long
    have length : one.material.length = other.material.length := by
      have whole := (first.length_number done).symm.trans (second.length_number done')
      omega
    have same := value.symm.trans value'
    rw [← length] at same
    obtain ⟨fronts, materials⟩ := (position_inj first.material_lt
      (length ▸ second.material_lt)).mp same
    rw [← String.length_toList, ← String.length_toList] at length
    have text := eq_of_valueOf first.all_material second.all_material length materials
    exact ⟨fronts, String.toList_inj.mp text⟩
  · rintro ⟨fronts, materials⟩
    apply String.toList_inj.mp
    apply eq_of_valueOf (all_of_isNumeral (first.isNumeral_number done))
      (all_of_isNumeral (second.isNumeral_number done'))
    · rw [first.length_number done, second.length_number done', materials]
    · rw [value, value', fronts, materials]

theorem number_lt_iff (first : one.FitsWidths) (second : other.FitsWidths)
    (done : Rule.zeroPadded.buildNumber one = .ok number)
    (done' : Rule.zeroPadded.buildNumber other = .ok another)
    (sameLength : one.material.length = other.material.length) :
    valueOf number.toList < valueOf another.toList ↔ List.Lex (· < ·) one.values other.values := by
  rw [first.valueOf_number done, second.valueOf_number done', first.lex_values_iff second,
    ← sameLength, position_lt_iff first.material_lt (sameLength ▸ second.material_lt)]

/-- A material that is not longer cannot outweigh what stands in front. -/
theorem number_lt_of_length_le (first : one.FitsWidths) (second : other.FitsWidths)
    (done : Rule.zeroPadded.buildNumber one = .ok number)
    (done' : Rule.zeroPadded.buildNumber other = .ok another)
    (shorter : one.material.length ≤ other.material.length)
    (smaller : List.Lex (· < ·) one.values other.values) :
    valueOf number.toList < valueOf another.toList := by
  rw [first.valueOf_number done, second.valueOf_number done']
  have powers : 10 ^ one.material.length ≤ 10 ^ other.material.length :=
    Nat.pow_le_pow_right (by decide) shorter
  rcases (first.lex_values_iff second).mp smaller with less | ⟨same, less⟩
  · have room := Nat.mul_le_mul (Nat.succ_le_of_lt less) powers
    have below := first.material_lt
    rw [Nat.succ_mul] at room
    omega
  · have room := Nat.mul_le_mul_left other.front powers
    rw [same]
    omega

/-- The digits that a longer material has in front count as more digits of the patch. -/
theorem number_lt_iff_of_longer (first : one.FitsWidths) (second : other.FitsWidths)
    (done : Rule.zeroPadded.buildNumber one = .ok number)
    (done' : Rule.zeroPadded.buildNumber other = .ok another)
    {lead rest : List Char} (longer : one.material.toList = lead ++ rest)
    (sameLength : rest.length = other.material.length) :
    valueOf number.toList < valueOf another.toList ↔
      List.Lex (· < ·) [one.front * 10 ^ lead.length + valueOf lead, valueOf rest]
        [other.front, valueOf other.material.toList] := by
  have digits := first.all_material
  rw [longer, List.all_append, Bool.and_eq_true] at digits
  have length : one.material.length = lead.length + rest.length := by
    rw [← String.length_toList, longer, List.length_append]
  have value : valueOf number.toList =
      (one.front * 10 ^ lead.length + valueOf lead) * 10 ^ other.material.length +
        valueOf rest := by
    rw [first.valueOf_number done, longer, valueOf_append, length, sameLength]
    ring
  rw [value, second.valueOf_number done',
    position_lt_iff (sameLength ▸ valueOf_lt digits.2) second.material_lt]
  simp only [List.cons_lex_cons_iff, List.not_lex_nil, and_false, or_false]

instance : Decidable components.FitsWidths :=
  decidable_of_iff ((∀ text ∈ components.toList, isNumeral text.toList = true) ∧
      components.major.length ≤ 3 ∧ components.minor.length ≤ 3 ∧ components.patch.length ≤ 2)
    ⟨fun ⟨digits, major, minor, patch⟩ => ⟨exists_ofInputs_iff.mpr digits, major, minor, patch⟩,
      fun fits => ⟨exists_ofInputs_iff.mp fits.accepted, fits.major, fits.minor, fits.patch⟩⟩

end Components.FitsWidths

namespace Components.IsBounded

theorem length_part_le (bounded : components.IsBounded) {width : Nat} (positive : 0 < width) :
    ∀ text ∈ components.toList, valueOf text.toList < 10 ^ width → text.length ≤ width := by
  intro text part small
  have numeral := exists_ofInputs_iff.mp bounded.accepted text part
  rw [← String.length_toList]
  exact length_le_of_valueOf_lt (all_of_isNumeral numeral) (bounded.unpadded text part)
    positive small

theorem fitsWidths (bounded : components.IsBounded) : components.FitsWidths := by
  have three := forall_mem_toList.mp (bounded.length_part_le (by decide : 0 < 3))
  have two := forall_mem_toList.mp (bounded.length_part_le (by decide : 0 < 2))
  obtain ⟨major, minor, _, _⟩ := three
  obtain ⟨_, _, patch, _⟩ := two
  exact ⟨bounded.accepted, major (Nat.lt_succ_of_le bounded.major),
    minor (Nat.lt_succ_of_le bounded.minor), patch (Nat.lt_succ_of_le bounded.patch)⟩

theorem length_material_le (first : one.IsBounded) (second : other.IsBounded)
    (smaller : valueOf one.material.toList ≤ valueOf other.material.toList) :
    one.material.length ≤ other.material.length := by
  obtain ⟨_, _, _, unpadded⟩ := forall_mem_toList.mp first.unpadded
  obtain ⟨_, _, _, numeral⟩ := forall_mem_toList.mp (exists_ofInputs_iff.mp second.accepted)
  rw [← String.length_toList, ← String.length_toList]
  exact length_le_length first.fitsWidths.all_material unpadded numeral smaller

instance : Decidable components.IsBounded :=
  decidable_of_iff ((∀ text ∈ components.toList, isNumeral text.toList = true) ∧
      (∀ text ∈ components.toList, isUnpadded text.toList = true) ∧
      valueOf components.major.toList ≤ 999 ∧ valueOf components.minor.toList ≤ 999 ∧
      valueOf components.patch.toList ≤ 99)
    ⟨fun ⟨digits, unpadded, limits⟩ =>
        ⟨exists_ofInputs_iff.mpr digits, unpadded, limits.1, limits.2.1, limits.2.2⟩,
      fun bounded => ⟨exists_ofInputs_iff.mp bounded.accepted, bounded.unpadded, bounded.major,
        bounded.minor, bounded.patch⟩⟩

end Components.IsBounded

/-- Where the components fit their widths, each has its place in the zero-padded number: two
numbers are the same text only for the same version and the same spelling of the material, and
materials of one length leave the order to the versions. -/
theorem zeroPadded_positional (first : one.FitsWidths) (second : other.FitsWidths) :
    ∃ number another, Rule.zeroPadded.buildNumber one = .ok number ∧
      Rule.zeroPadded.buildNumber other = .ok another ∧
      isNumeral number.toList = true ∧
      valueOf number.toList =
        ((valueOf one.major.toList * 1000 + valueOf one.minor.toList) * 100 +
            valueOf one.patch.toList) * 10 ^ one.material.length +
          valueOf one.material.toList ∧
      (number = another ↔
        valueOf one.major.toList = valueOf other.major.toList ∧
        valueOf one.minor.toList = valueOf other.minor.toList ∧
        valueOf one.patch.toList = valueOf other.patch.toList ∧
        one.material = other.material) ∧
      (one.material.length = other.material.length →
        (valueOf number.toList < valueOf another.toList ↔
          List.Lex (· < ·) one.values other.values)) := by
  refine ⟨_, _, rfl, rfl, first.isNumeral_number rfl, first.valueOf_number rfl, ?_, ?_⟩
  · rw [first.number_inj second rfl rfl, first.front_inj second]
    simp only [and_assoc]
  · exact first.number_lt_iff second rfl rfl

/-- Zeros in front of all parts of a version. -/
theorem zeroPadded_positional_of_zeros :
    let one : Components := ⟨"07", "010", "3", "045"⟩
    let other : Components := ⟨"7", "10", "04", "000"⟩
    one.FitsWidths ∧ other.FitsWidths ∧
      Rule.zeroPadded.buildNumber one = .ok "00701003045" ∧
      Rule.zeroPadded.buildNumber other = .ok "00701004000" ∧
      valueOf "00701003045".toList = ((7 * 1000 + 10) * 100 + 3) * 1000 + 45 ∧
      valueOf "00701003045".toList < valueOf "00701004000".toList := by
  intro one other
  have first : one.FitsWidths := by decide +kernel
  have second : other.FitsWidths := by decide +kernel
  have made : Rule.zeroPadded.buildNumber one = .ok "00701003045" := by decide +kernel
  have made' : Rule.zeroPadded.buildNumber other = .ok "00701004000" := by decide +kernel
  obtain ⟨number, another, done, done', _, value, _, order⟩ := zeroPadded_positional first second
  obtain rfl := Except.ok.inj (made.symm.trans done)
  obtain rfl := Except.ok.inj (made'.symm.trans done')
  exact ⟨first, second, made, made', value.trans (by decide +kernel),
    (order (by decide +kernel)).mpr (by decide +kernel)⟩

/-- The number of a smaller version is smaller if its material is not longer, and if both
versions differ in nothing else. Where its material is longer, the digits in excess are compared
as if they stood at the end of the patch version. -/
theorem zeroPadded_ordered (first : one.IsBounded) (second : other.IsBounded)
    (smaller : List.Lex (· < ·) one.values other.values) :
    ∃ number another, Rule.zeroPadded.buildNumber one = .ok number ∧
      Rule.zeroPadded.buildNumber other = .ok another ∧
      (one.material.length ≤ other.material.length →
        valueOf number.toList < valueOf another.toList) ∧
      (one.front = other.front → valueOf number.toList < valueOf another.toList) ∧
      ∀ lead rest, one.material.toList = lead ++ rest → rest.length = other.material.length →
        (valueOf number.toList < valueOf another.toList ↔
          List.Lex (· < ·) [one.front * 10 ^ lead.length + valueOf lead, valueOf rest]
            [other.front, valueOf other.material.toList]) := by
  have fits := first.fitsWidths
  have fits' := second.fitsWidths
  have ordered (shorter : one.material.length ≤ other.material.length) :=
    fits.number_lt_of_length_le fits' rfl rfl shorter smaller
  refine ⟨_, _, rfl, rfl, ordered, ?_, ?_⟩
  · intro same
    rcases (fits.lex_values_iff fits').mp smaller with less | ⟨_, less⟩
    · omega
    · -- without zeros in front the smaller material is not the longer one
      exact ordered (first.length_material_le second less.le)
  · intro lead rest longer sameLength
    exact fits.number_lt_iff_of_longer fits' rfl rfl longer sameLength

/-- A longer material in front of which there are only zeros. -/
theorem zeroPadded_ordered_after_zeros :
    let one : Components := ⟨"0", "0", "0", "45"⟩
    let other : Components := ⟨"0", "0", "5", "1"⟩
    one.IsBounded ∧ other.IsBounded ∧ List.Lex (· < ·) one.values other.values ∧
      Rule.zeroPadded.buildNumber one = .ok "0000000045" ∧
      Rule.zeroPadded.buildNumber other = .ok "000000051" ∧
      valueOf "0000000045".toList < valueOf "000000051".toList := by
  intro one other
  have first : one.IsBounded := by decide +kernel
  have second : other.IsBounded := by decide +kernel
  have smaller : List.Lex (· < ·) one.values other.values := by decide +kernel
  have made : Rule.zeroPadded.buildNumber one = .ok "0000000045" := by decide +kernel
  have made' : Rule.zeroPadded.buildNumber other = .ok "000000051" := by decide +kernel
  obtain ⟨number, another, done, done', _, _, order⟩ := zeroPadded_ordered first second smaller
  obtain rfl := Except.ok.inj (made.symm.trans done)
  obtain rfl := Except.ok.inj (made'.symm.trans done')
  have less := (order ['4'] ['5'] (by decide +kernel) (by decide +kernel)).mpr (by decide +kernel)
  exact ⟨first, second, smaller, made, made', less⟩

/-- The next patch has a smaller number if its material has fewer digits. -/
theorem zeroPadded_of_shorter_material :
    let earlier : Components := ⟨"1", "2", "3", "45"⟩
    let later : Components := ⟨"1", "2", "4", "1"⟩
    earlier.IsBounded ∧ later.IsBounded ∧ List.Lex (· < ·) earlier.values later.values ∧
      Rule.zeroPadded.buildNumber earlier = .ok "0010020345" ∧
      Rule.zeroPadded.buildNumber later = .ok "001002041" ∧
      valueOf "001002041".toList < valueOf "0010020345".toList := by
  decide +kernel

end VersionStamp.Release
