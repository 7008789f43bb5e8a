import VersionStamp.Proofs.Release.Numeric

/-! Inputs that are checked.

An input is accepted when a numeral is left of it without the blanks around it. Of four
inputs the first that is not accepted is the one reported.
-/

namespace VersionStamp.Release

open VersionStamp.Text

namespace Part

def all : List Part := [.major, .minor, .patch, .material, .buildNumber]

/-- The place of a part among all of them. -/
def index : Part → Nat
  | .major => 0
  | .minor => 1
  | .patch => 2
  | .material => 3
  | .buildNumber => 4

theorem mem_take_index {part earlier : Part} :
    earlier ∈ all.take part.index ↔ earlier.index < part.index := by
  cases part <;> cases earlier <;> decide

theorem forall_components {property : Part → Prop} :
    (∀ part ≠ .buildNumber, property part) ↔
      property .major ∧ property .minor ∧ property .patch ∧ property .material := by
  constructor
  · exact fun each => ⟨each _ nofun, each _ nofun, each _ nofun, each _ nofun⟩
  · rintro ⟨major, minor, patch, material⟩ part component
    cases part with
    | major => exact major
    | minor => exact minor
    | patch => exact patch
    | material => exact material
    | buildNumber => exact absurd rfl component

end Part

/-- Without the blanks around it an input is a numeral. -/
def IsAccepted (input : String) : Prop := isNumeral (trim input).toList = true

instance (input : String) : Decidable (IsAccepted input) :=
  inferInstanceAs (Decidable (_ = true))

variable {part : Part} {input : String}

theorem numeral_of_accepted (part : Part) (accepted : IsAccepted input) :
    numeral part input = .ok (trim input) := by
  rw [IsAccepted] at accepted
  simp only [numeral, accepted, if_true]

theorem numeral_of_refused (part : Part) (refused : ¬ IsAccepted input) :
    numeral part input = .error (.notANumber part (trim input)) := by
  rw [IsAccepted] at refused
  simp only [numeral, refused, Bool.false_eq_true, if_false]

theorem numeral_eq_ok {text : String} (accepted : numeral part input = .ok text) :
    IsAccepted input ∧ trim input = text := by
  by_cases whether : IsAccepted input
  · rw [numeral_of_accepted part whether] at accepted
    exact ⟨whether, Except.ok.inj accepted⟩
  · rw [numeral_of_refused part whether] at accepted
    cases accepted

namespace Components

/-- The components with the texts of their parts. -/
def ofTexts (texts : Part → String) : Components :=
  ⟨texts .major, texts .minor, texts .patch, texts .material⟩

variable {inputs : Part → String}

theorem ofInputs_eq_ok_iff {components : Components} :
    ofInputs (ofTexts inputs) = .ok components ↔
      (∀ part ≠ .buildNumber, IsAccepted (inputs part)) ∧
        (ofTexts fun part => trim (inputs part)) = components := by
  constructor
  · intro checked
    obtain ⟨major, minor, patch, material⟩ := ofInputs_eq_ok checked
    obtain ⟨major, first⟩ := numeral_eq_ok major
    obtain ⟨minor, second⟩ := numeral_eq_ok minor
    obtain ⟨patch, third⟩ := numeral_eq_ok patch
    obtain ⟨material, fourth⟩ := numeral_eq_ok material
    refine ⟨Part.forall_components.mpr ⟨major, minor, patch, material⟩, ?_⟩
    exact congr (congr (congr (congrArg mk first) second) third) fourth
  · rintro ⟨accepted, rfl⟩
    have ok (part : Part) (component : part ≠ .buildNumber) :=
      numeral_of_accepted part (accepted part component)
    simp [ofInputs, ofTexts, ok, bind, Except.bind, pure, Except.pure]

/-- The parts are checked in order, up to the first that is not accepted. -/
theorem ofInputs_of_refused (component : part ≠ .buildNumber)
    (refused : ¬ IsAccepted (inputs part))
    (first : ∀ earlier : Part, earlier.index < part.index → IsAccepted (inputs earlier)) :
    ofInputs (ofTexts inputs) = .error (.notANumber part (trim (inputs part))) := by
  have error := numeral_of_refused part refused
  have ok (earlier : Part) (before : earlier.index < part.index) :=
    numeral_of_accepted earlier (first earlier before)
  cases part with
  | major => simp [ofInputs, ofTexts, error, bind, Except.bind]
  | minor => simp [ofInputs, ofTexts, ok .major (by decide), error, bind, Except.bind]
  | patch =>
      simp [ofInputs, ofTexts, ok .major (by decide), ok .minor (by decide), error, bind,
        Except.bind]
  | material =>
      simp [ofInputs, ofTexts, ok .major (by decide), ok .minor (by decide),
        ok .patch (by decide), error, bind, Except.bind]
  | buildNumber => exact absurd rfl component

end Components

end VersionStamp.Release
