import VersionStamp.Proofs.Release.Decimal

/-! Arithmetic build numbers.

A part is read as a number below the word limit, and so is its multiple. What does not fit is
refused, so a product that is written is the exact one.
-/

namespace VersionStamp.Release

variable {sign digits text longer : List Char} {n factor : Nat}

/-- A text that stands for a number: a numeral of it behind at most one plus sign. -/
def StandsFor (text : List Char) (n : Nat) : Prop :=
  ∃ sign digits, text = sign ++ digits ∧ (sign = [] ∨ sign = ['+']) ∧
    isNumeral digits = true ∧ valueOf digits = n

/-- The same text with zeros put before its digits. -/
def ZerosAdded (text longer : List Char) : Prop :=
  ∃ sign zeros digits, (sign = [] ∨ sign = ['+']) ∧ isNumeral digits = true ∧
    text = sign ++ digits ∧ longer = sign ++ (List.replicate zeros '0' ++ digits)

theorem isNumeral_zeros (zeros : Nat) (numeral : isNumeral digits = true) :
    isNumeral (List.replicate zeros '0' ++ digits) = true := by
  rw [isNumeral_append numeral, all_zeros]

theorem natural?_signed (plus : sign = [] ∨ sign = ['+']) (numeral : isNumeral digits = true) :
    natural? (sign ++ digits) = some n ↔ valueOf digits < wordLimit ∧ valueOf digits = n := by
  rcases plus with rfl | rfl
  · cases digits with
    | nil => contradiction
    | cons c rest =>
        have unsigned : c ≠ '+' := by
          rintro rfl
          simp [isNumeral] at numeral
        simp [natural?, unsigned, numeral, valueOf]
  · simp [natural?, numeral, valueOf]

theorem signed_of_natural? (read : natural? text = some n) :
    ∃ sign digits, text = sign ++ digits ∧ (sign = [] ∨ sign = ['+']) ∧
      isNumeral digits = true := by
  simp only [natural?] at read
  split at read
  · split at read
    · rename_i numeral
      exact ⟨['+'], _, rfl, .inr rfl, numeral⟩
    · contradiction
  · split at read
    · rename_i numeral
      exact ⟨[], _, rfl, .inl rfl, numeral⟩
    · contradiction

theorem natural?_eq_some : natural? text = some n ↔ StandsFor text n ∧ n < wordLimit := by
  constructor
  · intro read
    obtain ⟨sign, digits, rfl, plus, numeral⟩ := signed_of_natural? read
    obtain ⟨small, rfl⟩ := (natural?_signed plus numeral).mp read
    exact ⟨⟨sign, digits, rfl, plus, numeral, rfl⟩, small⟩
  · rintro ⟨⟨sign, digits, rfl, plus, numeral, rfl⟩, small⟩
    exact (natural?_signed plus numeral).mpr ⟨small, rfl⟩

theorem natural?_zerosAdded (added : ZerosAdded text longer) : natural? longer = natural? text := by
  obtain ⟨sign, zeros, digits, plus, numeral, rfl, rfl⟩ := added
  apply Option.ext
  intro n
  rw [natural?_signed plus (isNumeral_zeros zeros numeral), natural?_signed plus numeral,
    valueOf_zeros]

theorem multiple_zerosAdded {part other : String} (added : ZerosAdded part.toList other.toList) :
    multiple factor other = multiple factor part := by
  rw [multiple, multiple, natural?_zerosAdded added]

theorem multiple_of_standsFor {part : String} (positive : 0 < factor)
    (stands : StandsFor part.toList n) (small : factor * n ≤ 2 ^ 64 - 1) :
    multiple factor part = .ok (decimal (factor * n)) := by
  have limit : wordLimit = 2 ^ 64 := rfl
  have fits : n * factor < wordLimit := by
    rw [limit, Nat.mul_comm]
    omega
  have read := natural?_eq_some.mpr
    ⟨stands, Nat.lt_of_le_of_lt (Nat.le_mul_of_pos_right n positive) fits⟩
  simp [multiple, read, fits, Nat.mul_comm]

theorem multiple_of_not_standsFor {part : String}
    (none_fits : ¬ ∃ n, StandsFor part.toList n ∧ factor * n ≤ 2 ^ 64 - 1) :
    multiple factor part = .error .buildNumberTooLarge := by
  have limit : wordLimit = 2 ^ 64 := rfl
  cases read : natural? part.toList with
  | none => simp [multiple, read]
  | some n =>
      have large : ¬ n * factor < wordLimit := by
        intro fits
        rw [limit, Nat.mul_comm] at fits
        exact none_fits ⟨n, (natural?_eq_some.mp read).1, by omega⟩
      simp [multiple, read, large]

/-- An arithmetic build number is made when major and minor stand for numbers whose multiples
fit in 64 bits. It then has the exact multiples in it, and zeros before their digits do not
change it. In every other case it is refused as too large. -/
theorem arithmetic_exact (components : Components) :
    (∀ major minor, StandsFor components.major.toList major →
      StandsFor components.minor.toList minor →
      100 * major ≤ 2 ^ 64 - 1 → 10 * minor ≤ 2 ^ 64 - 1 →
      ∃ first second : String, IsShortest first.toList (100 * major) ∧
        IsShortest second.toList (10 * minor) ∧
        Rule.arithmetic.buildNumber components =
          .ok (first ++ second ++ components.patch ++ components.material)) ∧
    ((¬ ∃ major minor, StandsFor components.major.toList major ∧
        StandsFor components.minor.toList minor ∧
        100 * major ≤ 2 ^ 64 - 1 ∧ 10 * minor ≤ 2 ^ 64 - 1) →
      Rule.arithmetic.buildNumber components = .error .buildNumberTooLarge) ∧
    (∀ major : String, ZerosAdded components.major.toList major.toList →
      Rule.arithmetic.buildNumber { components with major } =
        Rule.arithmetic.buildNumber components) ∧
    (∀ minor : String, ZerosAdded components.minor.toList minor.toList →
      Rule.arithmetic.buildNumber { components with minor } =
        Rule.arithmetic.buildNumber components) := by
  refine ⟨?_, ?_, ?_, ?_⟩
  · intro major minor first second small small'
    refine ⟨decimal (100 * major), decimal (10 * minor), isShortest_decimal _,
      isShortest_decimal _, ?_⟩
    rw [Rule.buildNumber, multiple_of_standsFor (by decide) first small,
      multiple_of_standsFor (by decide) second small']
    rfl
  · intro none_fits
    by_cases fits : ∃ major, StandsFor components.major.toList major ∧ 100 * major ≤ 2 ^ 64 - 1
    · obtain ⟨major, stands, small⟩ := fits
      have refused : ¬ ∃ minor, StandsFor components.minor.toList minor ∧
          10 * minor ≤ 2 ^ 64 - 1 := by
        rintro ⟨minor, stands', small'⟩
        exact none_fits ⟨major, minor, stands, stands', small, small'⟩
      rw [Rule.buildNumber, multiple_of_standsFor (by decide) stands small,
        multiple_of_not_standsFor refused]
      rfl
    · rw [Rule.buildNumber, multiple_of_not_standsFor fits]
      rfl
  · intro major added
    rw [Rule.buildNumber, Rule.buildNumber, multiple_zerosAdded added]
  · intro minor added
    rw [Rule.buildNumber, Rule.buildNumber, multiple_zerosAdded added]

/-- The largest numbers that are taken, the first behind a plus sign. -/
theorem arithmetic_exact_at_limit :
    let components : Components := ⟨"+184467440737095516", "1844674407370955161", "p", ""⟩
    let major := "+000184467440737095516"
    StandsFor components.major.toList 184467440737095516 ∧
      StandsFor components.minor.toList 1844674407370955161 ∧
      ZerosAdded components.major.toList major.toList ∧
      (∃ first second : String, IsShortest first.toList 18446744073709551600 ∧
        IsShortest second.toList 18446744073709551610 ∧
        Rule.arithmetic.buildNumber components = .ok (first ++ second ++ "p" ++ "")) ∧
      Rule.arithmetic.buildNumber { components with major } =
        Rule.arithmetic.buildNumber components := by
  intro components major
  have first : StandsFor components.major.toList 184467440737095516 :=
    ⟨['+'], "184467440737095516".toList, by decide +kernel, .inr rfl, by decide +kernel,
      by decide +kernel⟩
  have second : StandsFor components.minor.toList 1844674407370955161 :=
    ⟨[], _, rfl, .inl rfl, by decide +kernel, by decide +kernel⟩
  have added : ZerosAdded components.major.toList major.toList :=
    ⟨['+'], 3, "184467440737095516".toList, .inr rfl, by decide +kernel, by decide +kernel,
      by decide +kernel⟩
  obtain ⟨made, _, same, _⟩ := arithmetic_exact components
  have written := made _ _ first second (by decide) (by decide)
  exact ⟨first, second, added, written, same major added⟩

example :
    Rule.arithmetic.buildNumber ⟨"184467440737095517", "0", "0", "0"⟩ =
      .error .buildNumberTooLarge ∧
    Rule.arithmetic.buildNumber ⟨"0", "++1", "0", "0"⟩ = .error .buildNumberTooLarge := by
  decide +kernel

end VersionStamp.Release
