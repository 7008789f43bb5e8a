import Mathlib.Data.List.Infix
import VersionStamp.Proofs.Artifact.FirstTag

/-! A text into which a line was stamped, divided again.

Stamping neither joins lines nor breaks them. Every line of the text it leaves is the line
in the same place before, kept or replaced, so texts that are put together can be stamped
one by one, and another value of the tag leaves nothing of the first.
-/

namespace VersionStamp.Artifact

open VersionStamp.Text

namespace TaggedLine

variable {tagged : TaggedLine} {line : List Char}

theorem stampLine_eq (tagged : TaggedLine) (line : List Char) :
    tagged.stampLine line =
      if tagged.tag.toList <:+: line then
        tagged.tag.toList ++ tagged.value.toList ++
          (if ['\r', '\n'] <:+ line then ['\r', '\n'] else ['\n'])
      else line := by
  simp only [stampLine, marks, occursIn_iff, terminator, List.isSuffixOf_iff_suffix]

theorem countP_marks (tagged : TaggedLine) (lines : List (List Char)) :
    lines.countP tagged.marks = lines.countP fun line => tagged.tag.toList <:+: line := by
  apply List.countP_congr
  intro line _
  rw [marks, occursIn_iff, decide_eq_true_eq]

theorem suffix_stampLine (tagged : TaggedLine) (ended : ['\r', '\n'] <:+ line) :
    ['\r', '\n'] <:+ tagged.stampLine line := by
  rw [stampLine_eq]
  split
  · exact List.suffix_append _ _
  · exact ended

/-- A text in which no line was replaced is left as it was. -/
theorem stampText_of_unmarked {content : String}
    (unmarked : (tagged.stampText content).replaced = 0) :
    (tagged.stampText content).content = content := by
  have kept : ∀ line ∈ splitLines content.toList, tagged.stampLine line = line := by
    intro line member
    exact stampLine_of_not_marks (by simpa using List.countP_eq_zero.mp unmarked line member)
  rw [stampText]
  dsimp only
  rw [List.flatMap_congr kept, List.flatMap_id', flatten_splitLines, String.ofList_toList]

/-- A tag that fits into a line is missed exactly when it stands nowhere in the text. -/
theorem replaced_eq_zero_iff (nonempty : tagged.tag ≠ "") (unbroken : '\n' ∉ tagged.tag.toList)
    (content : String) :
    (tagged.stampText content).replaced = 0 ↔ ¬ tagged.tag.toList <:+: content.toList := by
  have filled : tagged.tag.toList ≠ [] := fun empty => nonempty (String.toList_eq_nil_iff.mp empty)
  rw [← exists_mem_splitLines_iff filled unbroken, stampText, countP_marks, List.countP_eq_zero]
  simp only [decide_eq_true_eq, not_exists, not_and]

theorem stampText_append (tagged : TaggedLine) {before : String}
    (whole : before = "" ∨ before.toList.getLast? = some '\n') (after : String) :
    tagged.stampText (before ++ after) =
      { content := (tagged.stampText before).content ++ (tagged.stampText after).content
        replaced := (tagged.stampText before).replaced + (tagged.stampText after).replaced } := by
  have divided : splitLines (before ++ after).toList =
      splitLines before.toList ++ splitLines after.toList := by
    rw [String.toList_append]
    exact splitLines_append_of_whole (whole.imp_left String.toList_eq_nil_iff.mpr) after.toList
  simp only [stampText, divided, List.flatMap_append, String.ofList_append, List.countP_append]

/-- Where tag and value fit into a line, a stamped text has a line for each that the text
had. A line with the tag in it is tag and value, ended as it was or by a line feed, and every
other line stays; as many are counted as have the tag. So what comes after a line end is
stamped by itself, and lines that all end in a carriage return and a line feed still do. -/
theorem stampText_line_by_line (fits : tagged.Fits) (content : String) :
    splitLines (tagged.stampText content).content.toList =
      (splitLines content.toList).map (fun line =>
        if tagged.tag.toList <:+: line then
          tagged.tag.toList ++ tagged.value.toList ++
            (if ['\r', '\n'] <:+ line then ['\r', '\n'] else ['\n'])
        else line) ∧
    (tagged.stampText content).replaced =
      (splitLines content.toList).countP (fun line => tagged.tag.toList <:+: line) ∧
    (∀ before after : String, content = before ++ after →
      before = "" ∨ before.toList.getLast? = some '\n' →
      (tagged.stampText content).content =
          (tagged.stampText before).content ++ (tagged.stampText after).content ∧
        (tagged.stampText content).replaced =
          (tagged.stampText before).replaced + (tagged.stampText after).replaced) ∧
    ((∀ line ∈ splitLines content.toList, ['\r', '\n'] <:+ line) →
      ∀ line ∈ splitLines (tagged.stampText content).content.toList, ['\r', '\n'] <:+ line) := by
  have divided := splitLines_stampText fits content
  refine ⟨?_, ?_, ?_, ?_⟩
  · rw [divided]
    exact List.map_congr_left fun line _ => tagged.stampLine_eq line
  · exact countP_marks tagged (splitLines content.toList)
  · rintro before after rfl whole
    rw [stampText_append tagged whole after]
    exact ⟨rfl, rfl⟩
  · intro ended line member
    rw [divided] at member
    obtain ⟨old, inside, rfl⟩ := List.mem_map.mp member
    exact tagged.suffix_stampLine (ended old inside)

/-- The tag ends in a carriage return, and so does the text, in a line without an end. -/
theorem stampText_line_by_line_of_returns :
    let tagged : TaggedLine := { tag := "T\r", value := "v" }
    let before := "aT\r\n\n"
    let after := "T\rb\r\nT\r"
    let closed := "aT\r\nb\r\n"
    tagged.Fits ∧
    splitLines (tagged.stampText (before ++ after)).content.toList =
      ["T\rv\r\n".toList, "\n".toList, "T\rv\r\n".toList, "T\rv\n".toList] ∧
    (tagged.stampText (before ++ after)).replaced = 3 ∧
    (tagged.stampText (before ++ after)).content =
      (tagged.stampText before).content ++ (tagged.stampText after).content ∧
    ∀ line ∈ splitLines (tagged.stampText closed).content.toList, ['\r', '\n'] <:+ line := by
  intro tagged before after closed
  have fits : tagged.Fits := ⟨by decide +kernel, by decide +kernel⟩
  have whole : before = "" ∨ before.toList.getLast? = some '\n' := .inr (by decide +kernel)
  obtain ⟨divided, counted, parts, _⟩ := stampText_line_by_line fits (before ++ after)
  obtain ⟨_, _, _, kept⟩ := stampText_line_by_line fits closed
  exact ⟨fits, divided.trans (by decide +kernel), counted.trans (by decide +kernel),
    (parts before after rfl whole).1, kept (by decide +kernel)⟩

section Overwriting

variable {one other : TaggedLine}

theorem marks_of_tag (sameTag : other.tag = one.tag) (line : List Char) :
    other.marks line = one.marks line := by
  rw [marks, sameTag, marks]

theorem marks_stampLine (sameTag : other.tag = one.tag) (line : List Char) :
    other.marks (one.stampLine line) = other.marks line := by
  cases marked : one.marks line with
  | false => rw [stampLine_of_not_marks marked]
  | true =>
      rw [stampLine_of_marks marked, marks_of_tag sameTag, marks_of_tag sameTag, marked]
      exact one.marks_inPlaceOf line

theorem stampLine_stampLine (fits : one.Fits) (sameTag : other.tag = one.tag)
    (line : List Char) : other.stampLine (one.stampLine line) = other.stampLine line := by
  have kept := marks_stampLine sameTag line
  cases marked : other.marks line with
  | false =>
      have unmarked : one.marks line = false := by rw [← marks_of_tag sameTag, marked]
      rw [stampLine_of_not_marks unmarked]
  | true =>
      have marked_one : one.marks line = true := by rw [← marks_of_tag sameTag, marked]
      rw [marked, stampLine_of_marks marked_one] at kept
      rw [stampLine_of_marks marked_one, stampLine_of_marks kept, stampLine_of_marks marked,
        inPlaceOf_inPlaceOf fits]

theorem stampText_stampText (fits : one.Fits) (sameTag : other.tag = one.tag)
    (content : String) :
    other.stampText (one.stampText content).content = other.stampText content := by
  have divided := splitLines_stampText fits content
  have counted : ((splitLines content.toList).map one.stampLine).countP other.marks =
      (splitLines content.toList).countP other.marks := by
    rw [List.countP_map]
    apply List.countP_congr
    intro line _
    rw [Function.comp_apply, marks_stampLine sameTag]
  simp only [stampText] at divided ⊢
  rw [divided, counted, List.flatMap_map]
  simp only [stampLine_stampLine fits sameTag]

/-- Only the first value of a tag has to fit into a line. Whatever comes after it is stamped
as into the text that was there before, the same value in particular. -/
theorem stampText_overwrites (fits : one.Fits) (value content : String) :
    { one with value }.stampText (one.stampText content).content =
        { one with value }.stampText content ∧
      one.stampText (one.stampText content).content = one.stampText content := by
  constructor
  · apply stampText_stampText fits
    rfl
  · apply stampText_stampText fits
    rfl

/-- The first value runs into a carriage return of the tag, the second one breaks lines. -/
theorem stampText_overwrites_by_lines :
    let one : TaggedLine := { tag := "T\r", value := "v" }
    let later : TaggedLine := { one with value := "T\r\ny\r" }
    let content := "aT\r\nb\r\nT\r"
    one.Fits ∧ ¬ later.Fits ∧
      (one.stampText content).content = "T\rv\r\nb\r\nT\rv\n" ∧
      later.stampText (one.stampText content).content =
        { content := "T\rT\r\ny\r\r\nb\r\nT\rT\r\ny\r\n", replaced := 2 } ∧
      one.stampText (one.stampText content).content = one.stampText content := by
  intro one later content
  have fits : one.Fits := ⟨by decide +kernel, by decide +kernel⟩
  obtain ⟨overwritten, again⟩ := stampText_overwrites fits later.value content
  have broken : ¬ later.Fits := fun fits => fits.unbroken (by decide +kernel)
  exact ⟨fits, broken, by decide +kernel, overwritten.trans (by decide +kernel), again⟩

end Overwriting

end TaggedLine

end VersionStamp.Artifact
