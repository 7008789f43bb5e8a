import Mathlib.Data.List.TakeWhile
import VersionStamp.Text.Blank

/-! Texts between blanks.

Trimming finds the one text that has no blank at its ends and that only blanks surround, so
further blanks around an input make no difference to it.
-/

namespace VersionStamp.Text

variable {text inner input : List Char}

/-- An input that has only blanks around a text. -/
def IsPadded (text input : List Char) : Prop :=
  ∃ before after, (∀ c ∈ before, isBlank c = true) ∧ (∀ c ∈ after, isBlank c = true) ∧
    input = before ++ text ++ after

/-- A text that neither begins nor ends with a blank. -/
structure IsTight (text : List Char) : Prop where
  head : ∀ c, text.head? = some c → isBlank c = false
  last : ∀ c, text.getLast? = some c → isBlank c = false

theorem IsPadded.trans (first : IsPadded text inner) (second : IsPadded inner input) :
    IsPadded text input := by
  obtain ⟨before, after, blankBefore, blankAfter, rfl⟩ := first
  obtain ⟨outerBefore, outerAfter, outerBlankBefore, outerBlankAfter, rfl⟩ := second
  refine ⟨outerBefore ++ before, after ++ outerAfter, ?_, ?_, by simp⟩
  · exact List.forall_mem_append.mpr ⟨outerBlankBefore, blankBefore⟩
  · exact List.forall_mem_append.mpr ⟨blankAfter, outerBlankAfter⟩

theorem dropWhile_of_head (head : ∀ c, text.head? = some c → isBlank c = false) :
    text.dropWhile isBlank = text := by
  cases text with
  | nil => rfl
  | cons c rest => simp [head c rfl]

theorem head_dropWhile (text : List Char) {c : Char}
    (head : (text.dropWhile isBlank).head? = some c) : isBlank c = false := by
  have stopped := List.head?_dropWhile_not isBlank text
  rwa [head] at stopped

theorem isTight_trimChars (input : List Char) : IsTight (trimChars input) := by
  constructor
  · intro c head
    have shortened : trimChars input <+: input.dropWhile isBlank := by
      rw [← List.reverse_suffix, trimChars, List.reverse_reverse]
      exact List.dropWhile_suffix isBlank
    obtain ⟨rest, whole⟩ := shortened
    apply head_dropWhile input
    rw [← whole, List.head?_append, head]
    rfl
  · intro c last
    rw [trimChars, List.getLast?_reverse] at last
    exact head_dropWhile _ last

theorem isPadded_trimChars (input : List Char) : IsPadded (trimChars input) input := by
  refine ⟨input.takeWhile isBlank, ((input.dropWhile isBlank).reverse.takeWhile isBlank).reverse,
    fun c => List.mem_takeWhile_imp, fun c member => ?_, ?_⟩
  · exact List.mem_takeWhile_imp (List.mem_reverse.mp member)
  · rw [trimChars, List.append_assoc, ← List.reverse_append, List.takeWhile_append_dropWhile,
      List.reverse_reverse, List.takeWhile_append_dropWhile]

theorem trimChars_eq_iff : trimChars input = text ↔ IsTight text ∧ IsPadded text input := by
  constructor
  · rintro rfl
    exact ⟨isTight_trimChars input, isPadded_trimChars input⟩
  · rintro ⟨tight, before, after, blankBefore, blankAfter, rfl⟩
    rw [trimChars, List.append_assoc, List.dropWhile_append_of_pos blankBefore]
    cases text with
    | nil =>
        rw [List.nil_append, List.dropWhile_eq_nil_iff.mpr blankAfter]
        rfl
    | cons c rest =>
        have front : (c :: rest ++ after).dropWhile isBlank = c :: rest ++ after :=
          dropWhile_of_head (by simpa using tight.head c rfl)
        have back : (c :: rest).reverse.dropWhile isBlank = (c :: rest).reverse :=
          dropWhile_of_head (by simpa only [List.head?_reverse] using tight.last)
        rw [front, List.reverse_append,
          List.dropWhile_append_of_pos fun c member => blankAfter c (List.mem_reverse.mp member),
          back, List.reverse_reverse]

theorem trim_eq_iff {input text : String} :
    trim input = text ↔ IsTight text.toList ∧ IsPadded text.toList input.toList := by
  rw [← String.toList_inj, toList_trim, trimChars_eq_iff]

theorem trim_of_isPadded {inner input : String} (padded : IsPadded inner.toList input.toList) :
    trim input = trim inner := by
  obtain ⟨tight, trimmed⟩ := trim_eq_iff.mp (rfl : trim inner = trim inner)
  exact trim_eq_iff.mpr ⟨tight, trimmed.trans padded⟩

/-- Blanks in front of a text end before its first character that is none. -/
theorem suffix_of_visible {padding front rest : List Char} {c : Char}
    (blank : ∀ c ∈ padding, isBlank c = true) (visible : isBlank c = false)
    (same : padding ++ inner = front ++ c :: rest) : ∃ skipped, inner = skipped ++ c :: rest := by
  induction padding generalizing front with
  | nil => exact ⟨front, same⟩
  | cons first padding ih =>
      rw [List.forall_mem_cons] at blank
      cases front with
      | nil =>
          obtain rfl := (List.cons.inj same).1
          simp [visible] at blank
      | cons _ front => exact ih blank.2 (List.cons.inj same).2

theorem prefix_of_visible {padding front rest : List Char} {c : Char}
    (blank : ∀ c ∈ padding, isBlank c = true) (visible : isBlank c = false)
    (same : inner ++ padding = front ++ c :: rest) : ∃ kept, inner = front ++ c :: kept := by
  have reversed : padding.reverse ++ inner.reverse = rest.reverse ++ c :: front.reverse := by
    rw [← List.reverse_append, same]
    simp
  obtain ⟨skipped, back⟩ :=
    suffix_of_visible (fun c member => blank c (List.mem_reverse.mp member)) visible reversed
  exact ⟨skipped.reverse, by rw [← List.reverse_reverse inner, back]; simp⟩

theorem IsTight.around_blank (tight : IsTight text) {c : Char} (member : c ∈ text)
    (blank : isBlank c = true) : ∃ first between last, text = first :: (between ++ [last]) ∧
      isBlank first = false ∧ isBlank last = false ∧ c ∈ between := by
  cases text with
  | nil => cases member
  | cons first rest =>
      have opens := tight.head first rfl
      have inside : c ∈ rest := by
        rcases List.mem_cons.mp member with rfl | inside
        · rw [blank] at opens
          contradiction
        · exact inside
      rcases List.eq_nil_or_concat rest with rfl | ⟨between, last, rfl⟩
      · cases inside
      · rw [List.concat_eq_append] at tight inside ⊢
        have closes := tight.last last (by rw [← List.cons_append, List.getLast?_concat])
        refine ⟨first, between, last, rfl, opens, closes, ?_⟩
        rcases List.mem_append.mp inside with inside | final
        · exact inside
        · obtain rfl := List.mem_singleton.mp final
          rw [blank] at closes
          contradiction

/-- What stands between two characters that are no blanks is within every text that only
blanks surround. -/
theorem IsPadded.mem_of_between (padded : IsPadded text input) {before between after : List Char}
    {first last c : Char} (parts : input = before ++ first :: (between ++ last :: after))
    (opens : isBlank first = false) (closes : isBlank last = false) (member : c ∈ between) :
    c ∈ text := by
  obtain ⟨outer, further, blankBefore, blankAfter, rfl⟩ := padded
  rw [List.append_assoc] at parts
  obtain ⟨skipped, inner⟩ := suffix_of_visible blankBefore opens parts
  rw [← List.cons_append, ← List.append_assoc] at inner
  obtain ⟨kept, rfl⟩ := prefix_of_visible blankAfter closes inner
  simp [member]

end VersionStamp.Text
