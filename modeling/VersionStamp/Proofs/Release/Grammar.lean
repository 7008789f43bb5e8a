import VersionStamp.Proofs.Release.Inputs
import VersionStamp.Proofs.Text.Encoding
import VersionStamp.Proofs.Text.Trimming

/-! What may be typed for a component.

Decimal digits with any blanks around them are accepted, and the digits are what is kept.
Of the inputs that are no such text, the first is reported, without the blanks at its ends.
-/

namespace VersionStamp.Release

open VersionStamp.Text

def IsDigits (text : List Char) : Prop :=
  text ≠ [] ∧ ∀ c ∈ text, '0' ≤ c ∧ c ≤ '9'

/-- Ways of not being digits between blanks: an input may be blank, it may have a character
that is neither a blank nor a decimal digit, or it may have blanks between other characters. -/
inductive IsMisfit (input : List Char) : Prop where
  | empty (blank : ∀ c ∈ input, isBlank c = true)
  | foreign (c : Char) (member : c ∈ input) (visible : isBlank c = false)
      (other : ¬ ('0' ≤ c ∧ c ≤ '9'))
  | divided (before between after : List Char) (first last : Char)
      (parts : input = before ++ first :: (between ++ last :: after))
      (opens : isBlank first = false) (closes : isBlank last = false)
      (gap : ∃ c ∈ between, isBlank c = true)

variable {text : List Char} {input : String} {part : Part}

theorem isDigit_iff {c : Char} : c.isDigit = true ↔ '0' ≤ c ∧ c ≤ '9' := by
  simp [Char.isDigit, Char.le_def]

theorem isNumeral_iff : isNumeral text = true ↔ IsDigits text := by
  simp [isNumeral, IsDigits, isDigit_iff]

instance (text : List Char) : Decidable (IsDigits text) :=
  decidable_of_iff _ isNumeral_iff

theorem IsDigits.isBlank_eq_false (digits : IsDigits text) {c : Char} (member : c ∈ text) :
    isBlank c = false :=
  isBlank_of_isDigit (isDigit_iff.mpr (digits.2 c member))

theorem IsDigits.isTight (digits : IsDigits text) : IsTight text where
  head _ head := digits.isBlank_eq_false (List.mem_of_mem_head? head)
  last _ last := digits.isBlank_eq_false (List.mem_of_getLast? last)

/-- A text is digits when all the bytes that encode it are digits of ASCII. -/
theorem isDigits_iff_bytes (text : String) :
    IsDigits text.toList ↔ text.toUTF8.data.toList ≠ [] ∧
      ∀ byte ∈ text.toUTF8.data.toList, 48 ≤ byte.toNat ∧ byte.toNat ≤ 57 := by
  have empty : text.toList.flatMap String.utf8EncodeChar = [] ↔ text.toList = [] := by
    rw [List.flatMap_eq_nil_iff, List.eq_nil_iff_forall_not_mem]
    simp only [String.utf8EncodeChar_ne_nil, imp_false]
  rw [toList_toUTF8, IsDigits, Ne, Ne, empty]
  refine and_congr_right fun _ => ⟨fun digits byte member => ?_, fun bytes c inside => ?_⟩
  · obtain ⟨c, inside, member⟩ := List.mem_flatMap.mp member
    have digit := toNat_of_isDigit (isDigit_iff.mpr (digits c inside))
    have value : c.val.toNat = c.toNat := rfl
    have single : c.val.toNat ≤ 127 := by omega
    simp only [String.utf8EncodeChar, single, if_true, List.mem_singleton] at member
    subst member
    simp only [UInt8.toNat_ofNat', value]
    omega
  · obtain ⟨byte, member⟩ := List.exists_mem_of_ne_nil _ (String.utf8EncodeChar_ne_nil (c := c))
    have bounds := bytes byte (List.mem_flatMap.mpr ⟨c, inside, member⟩)
    rw [← toNat_of_mem_utf8EncodeChar member (by omega)] at bounds
    exact bounds

theorem isAccepted_iff :
    IsAccepted input ↔ ∃ digits, IsDigits digits ∧ IsPadded digits input.toList := by
  rw [IsAccepted, toList_trim, isNumeral_iff]
  constructor
  · intro digits
    exact ⟨_, digits, isPadded_trimChars input.toList⟩
  · rintro ⟨digits, decimal, padded⟩
    rwa [trimChars_eq_iff.mpr ⟨decimal.isTight, padded⟩]

theorem not_isMisfit (accepted : IsAccepted input) : ¬ IsMisfit input.toList := by
  obtain ⟨digits, decimal, padded⟩ := isAccepted_iff.mp accepted
  intro misfit
  cases misfit with
  | empty blank =>
      obtain ⟨before, after, _, _, parts⟩ := padded
      obtain ⟨c, member⟩ := List.exists_mem_of_ne_nil _ decimal.1
      have visible := decimal.isBlank_eq_false member
      rw [blank c (by simp [parts, member])] at visible
      cases visible
  | foreign c member visible other =>
      obtain ⟨before, after, blankBefore, blankAfter, parts⟩ := padded
      rw [parts, List.mem_append, List.mem_append] at member
      rcases member with (outside | inside) | outside
      · simp [blankBefore c outside] at visible
      · exact other (decimal.2 c inside)
      · simp [blankAfter c outside] at visible
  | divided before between after first last parts opens closes gap =>
      obtain ⟨c, member, blank⟩ := gap
      have visible := decimal.isBlank_eq_false
        (padded.mem_of_between parts opens closes member)
      rw [blank] at visible
      cases visible

theorem isMisfit_of_trimmed {trimmed : List Char} {before after : List Char}
    (tight : IsTight trimmed) (other : ¬ IsDigits trimmed)
    (blankBefore : ∀ c ∈ before, isBlank c = true) (blankAfter : ∀ c ∈ after, isBlank c = true) :
    IsMisfit (before ++ trimmed ++ after) := by
  by_cases empty : trimmed = []
  · subst empty
    exact .empty (by simpa [or_imp, forall_and] using ⟨blankBefore, blankAfter⟩)
  · obtain ⟨c, member, notDigit⟩ : ∃ c ∈ trimmed, ¬ ('0' ≤ c ∧ c ≤ '9') := by
      simpa [IsDigits, empty, Classical.not_forall] using other
    cases blank : isBlank c with
    | false => exact .foreign c (by simp [member]) blank notDigit
    | true =>
        obtain ⟨first, between, last, rfl, opens, closes, inside⟩ := tight.around_blank member blank
        exact .divided before between after first last (by simp) opens closes ⟨c, inside, blank⟩

theorem isMisfit_iff : IsMisfit input.toList ↔ ¬ IsAccepted input := by
  constructor
  · exact fun misfit accepted => not_isMisfit accepted misfit
  · intro refused
    rw [IsAccepted, toList_trim, isNumeral_iff] at refused
    obtain ⟨before, after, blankBefore, blankAfter, parts⟩ := isPadded_trimChars input.toList
    rw [parts]
    exact isMisfit_of_trimmed (isTight_trimChars input.toList) refused blankBefore blankAfter

theorem accepted_as_iff {text : String} : IsAccepted input ∧ trim input = text ↔
    IsDigits text.toList ∧ IsPadded text.toList input.toList := by
  rw [IsAccepted, isNumeral_iff]
  constructor
  · rintro ⟨digits, rfl⟩
    exact ⟨digits, (trim_eq_iff.mp rfl).2⟩
  · rintro ⟨digits, padded⟩
    have trimmed := trim_eq_iff.mpr ⟨digits.isTight, padded⟩
    exact ⟨trimmed ▸ digits, trimmed⟩

theorem numeral_of_isPadded (part : Part) {inner : String}
    (padded : IsPadded inner.toList input.toList) : numeral part input = numeral part inner := by
  rw [numeral, numeral, trim_of_isPadded padded]

theorem Part.exists_first {property : Part → Prop}
    (some : ∃ part ≠ .buildNumber, property part) :
    ∃ part ≠ .buildNumber, property part ∧
      ∀ earlier : Part, earlier.index < part.index → ¬ property earlier := by
  obtain ⟨part, component, holds⟩ := some
  induction count : part.index using Nat.strongRecOn generalizing part with
  | _ count ih =>
      subst count
      by_cases before : ∃ earlier : Part, earlier.index < part.index ∧ property earlier
      · obtain ⟨earlier, before, also⟩ := before
        have component : earlier ≠ .buildNumber := by
          rintro rfl
          cases part <;> simp [index] at before
        exact ih earlier.index before earlier component also rfl
      · exact ⟨part, component, holds, fun earlier less also => before ⟨earlier, less, also⟩⟩

namespace Components

variable {inputs texts others : Part → String}

theorem ofTexts_inj :
    ofTexts inputs = ofTexts texts ↔ ∀ part ≠ .buildNumber, inputs part = texts part := by
  rw [Part.forall_components, ofTexts, ofTexts, mk.injEq]

theorem ofInputs_of_isPadded
    (padded : ∀ part ≠ .buildNumber, IsPadded (inputs part).toList (others part).toList) :
    ofInputs (ofTexts others) = ofInputs (ofTexts inputs) := by
  have same (part : Part) (component : part ≠ .buildNumber) :=
    numeral_of_isPadded part (padded part component)
  simp only [ofInputs, ofTexts, same .major (by decide), same .minor (by decide),
    same .patch (by decide), same .material (by decide)]

/-- Components are accepted exactly when each of them is digits between blanks, and are then
these digits, which are accepted as they are. More blanks around the inputs change nothing.
Otherwise the first misfit is reported, without the blanks at its ends. Whether a text is
digits shows in the bytes that encode it as well. -/
theorem ofInputs_by_grammar (inputs : Part → String) :
    (∀ texts : Part → String, ofInputs (ofTexts inputs) = .ok (ofTexts texts) ↔
      ∀ part ≠ .buildNumber, IsDigits (texts part).toList ∧
        IsPadded (texts part).toList (inputs part).toList) ∧
    (∀ components, ofInputs (ofTexts inputs) = .ok components →
      ofInputs components = .ok components) ∧
    (∀ others : Part → String,
      (∀ part ≠ .buildNumber, IsPadded (inputs part).toList (others part).toList) →
      ofInputs (ofTexts others) = ofInputs (ofTexts inputs)) ∧
    (∀ failure, ofInputs (ofTexts inputs) = .error failure ↔
      ∃ part ≠ .buildNumber, ∃ text : String, IsMisfit (inputs part).toList ∧
        (∀ earlier : Part, earlier.index < part.index → ¬ IsMisfit (inputs earlier).toList) ∧
        IsTight text.toList ∧ IsPadded text.toList (inputs part).toList ∧
        failure = .notANumber part text) ∧
    ∀ text : String, IsDigits text.toList ↔ text.toUTF8.data.toList ≠ [] ∧
      ∀ byte ∈ text.toUTF8.data.toList, 48 ≤ byte.toNat ∧ byte.toNat ≤ 57 := by
  refine ⟨fun texts => ?_, fun components accepted => ?_, fun others => ofInputs_of_isPadded,
    fun failure => ⟨fun failed => ?_, ?_⟩, isDigits_iff_bytes⟩
  · rw [ofInputs_eq_ok_iff, ofTexts_inj, ← forall₂_and]
    exact forall₂_congr fun part component => accepted_as_iff
  · exact ofInputs_self (isNumeral_of_ofInputs accepted)
  · obtain ⟨part, component, misfit, first⟩ :
        ∃ part ≠ .buildNumber, IsMisfit (inputs part).toList ∧ ∀ earlier : Part,
          earlier.index < part.index → ¬ IsMisfit (inputs earlier).toList := by
      refine Part.exists_first ?_
      by_contra none
      simp only [not_exists, not_and, isMisfit_iff, not_not] at none
      rw [ofInputs_eq_ok_iff.mpr ⟨none, rfl⟩] at failed
      cases failed
    have reported := ofInputs_of_refused component (isMisfit_iff.mp misfit)
      fun earlier before => by simpa [isMisfit_iff] using first earlier before
    obtain ⟨tight, padded⟩ := trim_eq_iff.mp (rfl : trim (inputs part) = trim (inputs part))
    exact ⟨part, component, trim (inputs part), misfit, first, tight, padded,
      Except.error.inj (failed.symm.trans reported)⟩
  · rintro ⟨part, component, text, misfit, first, tight, padded, rfl⟩
    rw [← trim_eq_iff.mpr ⟨tight, padded⟩]
    exact ofInputs_of_refused component (isMisfit_iff.mp misfit)
      fun earlier before => by simpa [isMisfit_iff] using first earlier before

/-- Blanks of all kinds around numbers with leading zeros; then a sign, an inner blank and a
digit of another script, with an input after it that is empty. -/
theorem ofInputs_by_grammar_of_blanks :
    let digits : Part → String
      | .major => "007" | .minor => "0" | .patch => "10" | .material => "045" | .buildNumber => ""
    let typed : Part → String
      | .major => "\u0085007\u3000" | .minor => "\t0\r\n" | .patch => "10\u2029"
      | .material => "045" | .buildNumber => ""
    let wider : Part → String := fun part => "\u1680" ++ typed part ++ "\u2003 "
    let wrong : Part → String
      | .major => " 007" | .minor => "\u00a0+2 \u0663\u2003" | .patch => ""
      | .material => "045" | .buildNumber => ""
    (∀ part ≠ .buildNumber, IsDigits (digits part).toList ∧
      IsPadded (digits part).toList (typed part).toList) ∧
    ofInputs (ofTexts typed) = .ok (ofTexts digits) ∧
    ofInputs (ofTexts digits) = .ok (ofTexts digits) ∧
    (∀ part ≠ .buildNumber, IsPadded (typed part).toList (wider part).toList) ∧
    ofInputs (ofTexts wider) = .ok (ofTexts digits) ∧
    IsMisfit (wrong .minor).toList ∧
    ofInputs (ofTexts wrong) = .error (.notANumber .minor "+2 \u0663") := by
  intro digits typed wider wrong
  have fits : ∀ part ≠ .buildNumber, IsDigits (digits part).toList ∧
      IsPadded (digits part).toList (typed part).toList := by
    intro part component
    have decimal : IsDigits (digits part).toList := by
      cases part <;> first | decide +kernel | exact absurd rfl component
    exact ⟨decimal, (trim_eq_iff.mp (by cases part <;> decide +kernel)).2⟩
  have padded : ∀ part ≠ .buildNumber, IsPadded (typed part).toList (wider part).toList :=
    fun part _ => ⟨['\u1680'], ['\u2003', ' '], List.all_eq_true.mp (by decide),
      List.all_eq_true.mp (by decide), by simp [wider]⟩
  have misfit : IsMisfit (wrong .minor).toList :=
    .foreign '+' (by decide +kernel) (by decide) (by decide)
  obtain ⟨accepts, again, widened, _⟩ := ofInputs_by_grammar typed
  obtain ⟨_, _, _, refuses, _⟩ := ofInputs_by_grammar wrong
  have accepted := (accepts digits).mpr fits
  obtain ⟨tight, trimmed⟩ :=
    trim_eq_iff.mp (by decide +kernel : trim (wrong .minor) = "+2 \u0663")
  refine ⟨fits, accepted, again _ accepted, padded, (widened wider padded).trans accepted,
    misfit, (refuses _).mpr ⟨.minor, nofun, _, misfit, ?_, tight, trimmed, rfl⟩⟩
  intro earlier before
  cases earlier with
  | major => exact fun other => isMisfit_iff.mp other (by decide +kernel)
  | minor | patch | material | buildNumber => simp [Part.index] at before

end Components

end VersionStamp.Release
