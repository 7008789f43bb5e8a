import Mathlib.Tactic.Ring
import VersionStamp.Proofs.Release.BuildNumber

/-! Numerals as numbers.

A numeral is read by position. Numerals of one length are ordered as their numbers are, and a
number has one numeral without a zero in front, which is the shortest.
-/

namespace VersionStamp.Release

/-- The number that a text of digits stands for. -/
def valueOf (text : List Char) : Nat := Nat.ofDigitChars 10 text 0

/-- Whether no zero stands in front of other digits. -/
def isUnpadded (text : List Char) : Bool := text == ['0'] || text.head? != some '0'

section Positions

variable {base high low high' low' : Nat}

theorem position_lt_iff (bound : low < base) (bound' : low' < base) :
    high * base + low < high' * base + low' ↔ high < high' ∨ high = high' ∧ low < low' := by
  rcases Nat.lt_trichotomy high high' with less | rfl | greater
  · have room : (high + 1) * base ≤ high' * base := Nat.mul_le_mul_right base less
    rw [Nat.succ_mul] at room
    omega
  · omega
  · have room : (high' + 1) * base ≤ high * base := Nat.mul_le_mul_right base greater
    rw [Nat.succ_mul] at room
    omega

theorem position_inj (bound : low < base) (bound' : low' < base) :
    high * base + low = high' * base + low' ↔ high = high' ∧ low = low' := by
  constructor
  · intro same
    have below := mt (position_lt_iff bound bound').mpr same.not_lt
    have above := mt (position_lt_iff bound' bound).mpr same.not_gt
    omega
  · rintro ⟨rfl, rfl⟩
    rfl

end Positions

section Values

variable {text one other : List Char}

theorem valueOf_append (high low : List Char) :
    valueOf (high ++ low) = valueOf high * 10 ^ low.length + valueOf low := by
  rw [valueOf, Nat.ofDigitChars_append, Nat.ofDigitChars_eq_ofDigitChars_zero, Nat.mul_comm]
  rfl

theorem valueOf_cons (c : Char) (rest : List Char) :
    valueOf (c :: rest) = (c.toNat - 48) * 10 ^ rest.length + valueOf rest := by
  have single : valueOf [c] = c.toNat - 48 := by simp [valueOf, Nat.ofDigitChars_cons]
  rw [← single, ← valueOf_append, List.singleton_append]

theorem valueOf_lt (digits : text.all Char.isDigit = true) :
    valueOf text < 10 ^ text.length := by
  induction text with
  | nil => simp [valueOf]
  | cons c rest ih =>
      rw [List.all_cons, Bool.and_eq_true] at digits
      have below := ih digits.2
      have bounds := toNat_of_isDigit digits.1
      have first : (c.toNat - 48) * 10 ^ rest.length ≤ 9 * 10 ^ rest.length :=
        Nat.mul_le_mul_right _ (by omega)
      rw [valueOf_cons, List.length_cons, pow_succ]
      omega

theorem valueOf_lt_of_length_le {digits : String} {width : Nat}
    (all : digits.toList.all Char.isDigit = true) (fits : digits.length ≤ width) :
    valueOf digits.toList < 10 ^ width := by
  have below := valueOf_lt all
  rw [String.length_toList] at below
  exact Nat.lt_of_lt_of_le below (Nat.pow_le_pow_right (by decide) fits)

theorem valueOf_zeros (count : Nat) (text : List Char) :
    valueOf (List.replicate count '0' ++ text) = valueOf text := by
  simp [valueOf, Nat.ofDigitChars_append]

theorem eq_of_valueOf (digits : one.all Char.isDigit = true)
    (digits' : other.all Char.isDigit = true) (sameLength : one.length = other.length)
    (sameValue : valueOf one = valueOf other) : one = other := by
  induction one generalizing other with
  | nil => exact (List.length_eq_zero_iff.mp sameLength.symm).symm
  | cons c rest ih =>
      cases other with
      | nil => contradiction
      | cons d others =>
          simp only [List.all_cons, Bool.and_eq_true] at digits digits'
          have length : rest.length = others.length := by simpa using sameLength
          have below := valueOf_lt digits.2
          rw [valueOf_cons, valueOf_cons, ← length] at sameValue
          rw [length] at below
          obtain ⟨first, tail⟩ := (position_inj (length ▸ below)
            (length ▸ valueOf_lt digits'.2)).mp sameValue
          have bounds := toNat_of_isDigit digits.1
          have bounds' := toNat_of_isDigit digits'.1
          have same : c = d := Char.toNat_inj.mp (by omega)
          rw [same, ih digits.2 digits'.2 length tail]

end Values

section Unpadded

variable {text one other : List Char}

theorem pow_le_valueOf {c : Char} {rest : List Char} (digit : c.isDigit = true)
    (nonzero : c ≠ '0') : 10 ^ rest.length ≤ valueOf (c :: rest) := by
  have bounds := toNat_of_isDigit digit
  have positive : c.toNat ≠ 48 := fun zero => nonzero (Char.toNat_inj.mp zero)
  have first : 1 * 10 ^ rest.length ≤ (c.toNat - 48) * 10 ^ rest.length :=
    Nat.mul_le_mul_right _ (by omega)
  rw [valueOf_cons]
  omega

theorem length_le_of_valueOf_lt {width : Nat} (digits : text.all Char.isDigit = true)
    (unpadded : isUnpadded text = true) (positive : 0 < width)
    (small : valueOf text < 10 ^ width) : text.length ≤ width := by
  cases text with
  | nil => exact Nat.zero_le width
  | cons c rest =>
      rw [List.all_cons, Bool.and_eq_true] at digits
      by_cases zero : c = '0'
      · have single : rest = [] := by simpa [isUnpadded, zero] using unpadded
        rw [single]
        exact positive
      · have reached := Nat.lt_of_le_of_lt (pow_le_valueOf digits.1 zero) small
        exact (Nat.pow_lt_pow_iff_right (by decide)).mp reached

theorem length_le_length (digits : one.all Char.isDigit = true) (unpadded : isUnpadded one = true)
    (numeral : isNumeral other = true) (smaller : valueOf one ≤ valueOf other) :
    one.length ≤ other.length := by
  have digits' := all_of_isNumeral numeral
  have positive := List.length_pos_iff.mpr (ne_nil_of_isNumeral numeral)
  exact length_le_of_valueOf_lt digits unpadded positive
    (Nat.lt_of_le_of_lt smaller (valueOf_lt digits'))

end Unpadded

/-- The shortest of the numerals that stand for a number. -/
structure IsShortest (text : List Char) (n : Nat) : Prop where
  numeral : isNumeral text = true
  unpadded : isUnpadded text = true
  value : valueOf text = n

theorem IsShortest.eq {text other : List Char} {n : Nat} (first : IsShortest text n)
    (second : IsShortest other n) : text = other := by
  have digits := all_of_isNumeral first.numeral
  have digits' := all_of_isNumeral second.numeral
  have same : valueOf text = valueOf other := first.value.trans second.value.symm
  have shorter := length_le_length digits first.unpadded second.numeral same.le
  have longer := length_le_length digits' second.unpadded first.numeral same.ge
  exact eq_of_valueOf digits digits' (Nat.le_antisymm shorter longer) same

theorem valueOf_decimal (n : Nat) : valueOf (decimal n).toList = n := by
  rw [decimal, String.toList_ofList]
  exact Nat.ofDigitChars_ten_toDigits

theorem length_decimal_le {n width : Nat} (positive : 0 < width) (small : n < 10 ^ width) :
    (decimal n).toList.length ≤ width := by
  rw [decimal, String.toList_ofList]
  exact (Nat.length_toDigits_le_iff (by decide) positive).mpr small

theorem isUnpadded_decimal (n : Nat) : isUnpadded (decimal n).toList = true := by
  have digits := all_decimal n
  have value := valueOf_decimal n
  rcases text : (decimal n).toList with _ | ⟨c, rest⟩
  · rfl
  by_cases zero : c = '0'
  · cases rest with
    | nil => simp [isUnpadded, zero]
    | cons d rest =>
        -- the number would be small enough to be written without the zero
        rw [text, List.all_cons, Bool.and_eq_true] at digits
        have same : valueOf (d :: rest) = n := by simpa [text, zero, valueOf_cons] using value
        have short := length_decimal_le (Nat.succ_pos _) (same ▸ valueOf_lt digits.2)
        simp [text] at short
  · simp [isUnpadded, zero]

theorem isShortest_decimal (n : Nat) : IsShortest (decimal n).toList n where
  numeral := by
    rw [isNumeral, all_decimal, Bool.and_true]
    simp [decimal, Nat.toDigits_ne_nil]
  unpadded := isUnpadded_decimal n
  value := valueOf_decimal n

end VersionStamp.Release
