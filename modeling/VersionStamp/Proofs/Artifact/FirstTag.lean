import VersionStamp.Artifact.TaggedLine
import VersionStamp.Proofs.Text.LineSplitting

/-! Stamping several tagged lines into one text.

Tagged lines that do not disturb each other can be stamped one after another or all
in one pass, in which the first tag of a line decides. What an earlier stamping with
the same tags left is overwritten completely.
-/

namespace VersionStamp.Artifact

open VersionStamp.Text

namespace TaggedLine

/-- What is put in the place of a marked line. -/
def inPlaceOf (tagged : TaggedLine) (line : List Char) : List Char :=
  tagged.tag.toList ++ tagged.value.toList ++ terminator line

theorem stampLine_of_marks {tagged : TaggedLine} {line : List Char}
    (marked : tagged.marks line = true) : tagged.stampLine line = tagged.inPlaceOf line :=
  if_pos marked

theorem stampLine_of_not_marks {tagged : TaggedLine} {line : List Char}
    (unmarked : tagged.marks line = false) : tagged.stampLine line = line := by
  simp [stampLine, unmarked]

theorem marks_inPlaceOf (tagged : TaggedLine) (line : List Char) :
    tagged.marks (tagged.inPlaceOf line) = true :=
  occursIn_iff.mpr ((List.prefix_append _ _).trans (List.prefix_append _ _)).isInfix

/-- Tag and value stand in one line, and do not run into its terminator. -/
structure Fits (tagged : TaggedLine) : Prop where
  unbroken : '\n' ∉ tagged.tag.toList ++ tagged.value.toList
  returns : (tagged.tag.toList ++ tagged.value.toList).getLast? ≠ some '\r'

theorem isTerminated_inPlaceOf {tagged : TaggedLine} (fits : tagged.Fits) (line : List Char) :
    IsTerminated (tagged.inPlaceOf line) := by
  have unbroken := fits.unbroken
  rcases terminator_cases line with ending | ending
  · refine ⟨tagged.tag.toList ++ tagged.value.toList ++ ['\r'], ?_, ?_⟩
    · simp [inPlaceOf, ending]
    · simpa using unbroken
  · exact ⟨_, by rw [inPlaceOf, ending], unbroken⟩

theorem terminator_inPlaceOf {tagged : TaggedLine} (fits : tagged.Fits) (line : List Char) :
    terminator (tagged.inPlaceOf line) = terminator line :=
  terminator_append fits.returns line

theorem inPlaceOf_inPlaceOf {one : TaggedLine} (fits : one.Fits) (other : TaggedLine)
    (line : List Char) : other.inPlaceOf (one.inPlaceOf line) = other.inPlaceOf line := by
  rw [inPlaceOf, terminator_inPlaceOf fits, inPlaceOf]

theorem splitLines_stampText {tagged : TaggedLine} (fits : tagged.Fits) (content : String) :
    splitLines (tagged.stampText content).content.toList =
      (splitLines content.toList).map tagged.stampLine := by
  rw [stampText, String.toList_ofList]
  apply splitLines_flatMap
  intro line
  cases marked : tagged.marks line with
  | true =>
      rw [stampLine_of_marks marked]
      exact .inr (isTerminated_inPlaceOf fits line)
  | false => exact .inl (stampLine_of_not_marks marked)

end TaggedLine

/-- Stamps lines into a text one after another. Gives the text they leave, and for
each of them the number of lines that were replaced for it. -/
def stampEach : List TaggedLine → String → String × List Nat
  | [], content => (content, [])
  | tagged :: others, content =>
      let stamped := tagged.stampText content
      let (result, counts) := stampEach others stamped.content
      (result, stamped.replaced :: counts)

def firstMark (lines : List TaggedLine) (line : List Char) : Option TaggedLine :=
  lines.find? (·.marks line)

def firstTag (lines : List TaggedLine) (line : List Char) : Option String :=
  (firstMark lines line).map (·.tag)

/-- Replaces a line of a text by the first of some lines that marks it. -/
def stampFirst (lines : List TaggedLine) (line : List Char) : List Char :=
  match firstMark lines line with
  | some tagged => tagged.inPlaceOf line
  | none => line

/-- Lines that do not disturb each other: each fits into a line of a text, and once it
stands there no other tag does. Lines with one tag are one line. -/
structure Separate (lines : List TaggedLine) : Prop where
  fits : ∀ one ∈ lines, one.Fits
  tag_of_marks : ∀ one ∈ lines, ∀ other ∈ lines, ∀ line,
    other.marks (one.inPlaceOf line) = true → other.tag = one.tag
  eq_of_tag : ∀ one ∈ lines, ∀ other ∈ lines, other.tag = one.tag → other = one

namespace Separate

variable {lines others : List TaggedLine}

theorem sublist (separate : Separate lines) (chosen : others.Sublist lines) : Separate others where
  fits one member := separate.fits one (chosen.subset member)
  tag_of_marks one first other second :=
    separate.tag_of_marks one (chosen.subset first) other (chosen.subset second)
  eq_of_tag one first other second :=
    separate.eq_of_tag one (chosen.subset first) other (chosen.subset second)

theorem tail {one : TaggedLine} (separate : Separate (one :: others)) : Separate others :=
  separate.sublist (List.sublist_cons_self one others)

theorem eq_of_marks (separate : Separate lines) {one other : TaggedLine} (first : one ∈ lines)
    (second : other ∈ lines) {line : List Char}
    (marked : other.marks (one.inPlaceOf line) = true) : other = one :=
  separate.eq_of_tag one first other second
    (separate.tag_of_marks one first other second line marked)

end Separate

theorem mem_of_firstMark {lines : List TaggedLine} {line : List Char} {tagged : TaggedLine}
    (found : firstMark lines line = some tagged) : tagged ∈ lines :=
  List.mem_of_find?_eq_some found

theorem marks_of_firstMark {lines : List TaggedLine} {line : List Char} {tagged : TaggedLine}
    (found : firstMark lines line = some tagged) : tagged.marks line = true := by
  have marked := List.find?_some found
  exact marked

theorem stampFirst_of_some {lines : List TaggedLine} {line : List Char} {tagged : TaggedLine}
    (found : firstMark lines line = some tagged) :
    stampFirst lines line = tagged.inPlaceOf line := by
  simp [stampFirst, found]

theorem stampFirst_of_none {lines : List TaggedLine} {line : List Char}
    (unmarked : firstMark lines line = none) : stampFirst lines line = line := by
  simp [stampFirst, unmarked]

section FirstOfSeveral

variable {one other : TaggedLine} {lines others : List TaggedLine} {line : List Char}

theorem Separate.eq_of_firstMark (separate : Separate (one :: others))
    (found : firstMark others (one.inPlaceOf line) = some other) : other = one :=
  separate.eq_of_marks List.mem_cons_self (List.mem_cons_of_mem _ (mem_of_firstMark found))
    (marks_of_firstMark found)

theorem Separate.firstMark_inPlaceOf (separate : Separate lines) (member : one ∈ lines)
    (line : List Char) : firstMark lines (one.inPlaceOf line) = some one := by
  cases found : firstMark lines (one.inPlaceOf line) with
  | none => exact absurd (one.marks_inPlaceOf line) (List.find?_eq_none.mp found one member)
  | some other =>
      rw [separate.eq_of_marks member (mem_of_firstMark found) (marks_of_firstMark found)]

theorem firstMark_cons_of_marks (marked : one.marks line = true) :
    firstMark (one :: others) line = some one := by
  simp [firstMark, marked]

theorem firstMark_cons_of_not_marks (unmarked : one.marks line = false) :
    firstMark (one :: others) line = firstMark others line := by
  simp [firstMark, unmarked]

/-- Stamping the first line and then, in one pass, the others is one pass. -/
theorem stampFirst_stampLine (separate : Separate (one :: others)) :
    stampFirst others (one.stampLine line) = stampFirst (one :: others) line := by
  cases marked : one.marks line with
  | false =>
      rw [TaggedLine.stampLine_of_not_marks marked, stampFirst, stampFirst,
        firstMark_cons_of_not_marks marked]
  | true =>
      rw [TaggedLine.stampLine_of_marks marked, stampFirst_of_some (firstMark_cons_of_marks marked)]
      cases found : firstMark others (one.inPlaceOf line) with
      | none => exact stampFirst_of_none found
      | some other =>
          -- a later line with the same tag replaces the stamped line by itself
          obtain rfl := separate.eq_of_firstMark found
          rw [stampFirst_of_some found]
          exact TaggedLine.inPlaceOf_inPlaceOf (separate.fits other List.mem_cons_self) other line

theorem firstTag_cons_self :
    firstTag (one :: others) line = some one.tag ↔ one.marks line = true := by
  cases marked : one.marks line with
  | true => simp [firstTag, firstMark_cons_of_marks marked]
  | false =>
      simp only [firstTag, firstMark_cons_of_not_marks marked, Bool.false_eq_true, iff_false]
      intro found
      obtain ⟨other, first, same⟩ := Option.map_eq_some_iff.mp found
      have marks : other.marks line = true := marks_of_firstMark first
      rw [TaggedLine.marks, same] at marks
      simp [TaggedLine.marks, marks] at marked

/-- A later line with the first tag counts the lines of that tag once more. -/
theorem firstTag_stampLine (separate : Separate (one :: others)) {tagged : TaggedLine}
    (member : tagged ∈ others) :
    firstTag others (one.stampLine line) = some tagged.tag ↔
      firstTag (one :: others) line = some tagged.tag := by
  cases marked : one.marks line with
  | false =>
      rw [TaggedLine.stampLine_of_not_marks marked, firstTag, firstTag,
        firstMark_cons_of_not_marks marked]
  | true =>
      rw [TaggedLine.stampLine_of_marks marked, firstTag, firstTag, firstMark_cons_of_marks marked]
      constructor
      · intro found
        obtain ⟨other, first, same⟩ := Option.map_eq_some_iff.mp found
        rw [← same, separate.eq_of_firstMark first]
        rfl
      · intro same
        obtain rfl : one = tagged := separate.eq_of_tag tagged (List.mem_cons_of_mem _ member) one
          List.mem_cons_self (Option.some.inj same)
        rw [separate.tail.firstMark_inPlaceOf member line]
        rfl

end FirstOfSeveral

/-- How many lines of a text have a given first tag. -/
def countOfTag (lines : List TaggedLine) (content : String) (tag : String) : Nat :=
  (splitLines content.toList).countP fun line => firstTag lines line == some tag

/-- Stamping separate lines one after another is one pass in which the first tag of a
line decides, and each of them replaces the lines whose first tag it has. -/
theorem stampEach_eq_onePass {lines : List TaggedLine} (separate : Separate lines)
    (content : String) :
    stampEach lines content =
      (String.ofList ((splitLines content.toList).flatMap (stampFirst lines)),
        lines.map fun tagged => countOfTag lines content tagged.tag) := by
  induction lines generalizing content with
  | nil =>
      have kept : stampFirst [] = id := rfl
      simp [stampEach, kept]
  | cons one others ih =>
      have divided := TaggedLine.splitLines_stampText (separate.fits one List.mem_cons_self) content
      have content_eq :
          (splitLines (one.stampText content).content.toList).flatMap (stampFirst others) =
            (splitLines content.toList).flatMap (stampFirst (one :: others)) := by
        rw [divided, List.flatMap_map]
        simp only [stampFirst_stampLine separate]
      have first : (one.stampText content).replaced =
          countOfTag (one :: others) content one.tag := by
        apply List.countP_congr
        intro line _
        simpa using firstTag_cons_self.symm
      have rest : ∀ tagged ∈ others,
          countOfTag others (one.stampText content).content tagged.tag =
            countOfTag (one :: others) content tagged.tag := by
        intro tagged member
        rw [countOfTag, divided, List.countP_map, countOfTag]
        apply List.countP_congr
        intro line _
        simpa using firstTag_stampLine separate member
      simp only [stampEach, ih separate.tail, List.map_cons, content_eq, first]
      rw [List.map_congr_left rest]

theorem firstTag_eq_find? (lines : List TaggedLine) (line : List Char) :
    firstTag lines line = (lines.map (·.tag)).find? fun tag => occursIn tag.toList line := by
  rw [firstTag, firstMark, List.find?_map]
  rfl

theorem firstTag_stampFirst {lines : List TaggedLine} (separate : Separate lines)
    (line : List Char) : firstTag lines (stampFirst lines line) = firstTag lines line := by
  cases found : firstMark lines line with
  | none => rw [stampFirst_of_none found]
  | some one =>
      rw [stampFirst_of_some found, firstTag, firstTag, found,
        separate.firstMark_inPlaceOf (mem_of_firstMark found) line]

theorem splitLines_onePass {lines : List TaggedLine} (separate : Separate lines)
    (text : List Char) :
    splitLines ((splitLines text).flatMap (stampFirst lines)) =
      (splitLines text).map (stampFirst lines) := by
  apply splitLines_flatMap
  intro line
  cases found : firstMark lines line with
  | none => exact .inl (stampFirst_of_none found)
  | some one =>
      have fits := separate.fits one (mem_of_firstMark found)
      rw [stampFirst_of_some found]
      exact .inr (TaggedLine.isTerminated_inPlaceOf fits line)

theorem splitLines_stampEach {lines : List TaggedLine} (separate : Separate lines)
    (content : String) : splitLines (stampEach lines content).1.toList =
      (splitLines content.toList).map (stampFirst lines) := by
  rw [stampEach_eq_onePass separate, String.toList_ofList, splitLines_onePass separate]

section Stamped

variable {lines : List TaggedLine} {content : String} {line : List Char}

theorem exists_inPlaceOf_of_marks (separate : Separate lines)
    (member : line ∈ splitLines (stampEach lines content).1.toList) {tagged : TaggedLine}
    (stamped : tagged ∈ lines) (marked : tagged.marks line = true) :
    ∃ old, line = tagged.inPlaceOf old := by
  rw [splitLines_stampEach separate] at member
  obtain ⟨old, _, rfl⟩ := List.mem_map.mp member
  cases found : firstMark lines old with
  | none =>
      rw [stampFirst_of_none found] at marked
      exact absurd marked (List.find?_eq_none.mp found tagged stamped)
  | some one =>
      rw [stampFirst_of_some found] at marked ⊢
      obtain rfl := separate.eq_of_marks (mem_of_firstMark found) stamped marked
      exact ⟨old, rfl⟩

theorem stampFirst_of_unmarked (unmarked : ∀ tagged ∈ lines, tagged.marks line = false) :
    stampFirst lines line = line := by
  apply stampFirst_of_none
  rw [firstMark, List.find?_eq_none]
  intro tagged member
  simp [unmarked tagged member]

theorem getElem?_stampEach_of_unmarked (separate : Separate lines) {index : Nat}
    (there : (splitLines content.toList)[index]? = some line)
    (unmarked : ∀ tagged ∈ lines, tagged.marks line = false) :
    (splitLines (stampEach lines content).1.toList)[index]? = some line := by
  rw [splitLines_stampEach separate, List.getElem?_map, there, Option.map_some,
    stampFirst_of_unmarked unmarked]

theorem stampEach_of_unmarked (separate : Separate lines)
    (unmarked : ∀ line ∈ splitLines content.toList, ∀ tagged ∈ lines,
      tagged.marks line = false) : (stampEach lines content).1 = content := by
  have kept : (splitLines content.toList).map (stampFirst lines) = splitLines content.toList := by
    refine (List.map_congr_left fun line member => ?_).trans (List.map_id _)
    exact stampFirst_of_unmarked (unmarked line member)
  rw [stampEach_eq_onePass separate, List.flatMap_def, kept, flatten_splitLines,
    String.ofList_toList]

end Stamped

section Restamping

variable {earlier later : List TaggedLine} {line : List Char}

theorem stampFirst_stampFirst (before : Separate earlier) (after : Separate later)
    (sameTags : earlier.map (·.tag) = later.map (·.tag)) :
    stampFirst later (stampFirst earlier line) = stampFirst later line := by
  have tag_kept : firstTag later (stampFirst earlier line) = firstTag later line := by
    simpa only [firstTag_eq_find?, sameTags] using firstTag_stampFirst before line
  cases found : firstMark earlier line with
  | none => rw [stampFirst_of_none found]
  | some one =>
      have fits := before.fits one (mem_of_firstMark found)
      rw [stampFirst_of_some found] at tag_kept ⊢
      have marked : firstTag later line = some one.tag := by
        rw [firstTag_eq_find?, ← sameTags, ← firstTag_eq_find?, firstTag, found]
        rfl
      rw [marked] at tag_kept
      obtain ⟨first, found_first, first_tag⟩ := Option.map_eq_some_iff.mp marked
      obtain ⟨again, found_again, again_tag⟩ := Option.map_eq_some_iff.mp tag_kept
      have same : again = first := after.eq_of_tag first (mem_of_firstMark found_first) again
        (mem_of_firstMark found_again) (again_tag.trans first_tag.symm)
      rw [stampFirst_of_some found_first, stampFirst_of_some found_again, same]
      exact TaggedLine.inPlaceOf_inPlaceOf fits first line

/-- Stamping absorbs every earlier stamping of lines with the same tags. -/
theorem stampEach_stampEach (before : Separate earlier) (after : Separate later)
    (sameTags : earlier.map (·.tag) = later.map (·.tag)) (content : String) :
    stampEach later (stampEach earlier content).1 = stampEach later content := by
  have divided := splitLines_stampEach before content
  have counted (tag : String) : countOfTag later (stampEach earlier content).1 tag =
      countOfTag later content tag := by
    rw [countOfTag, divided, List.countP_map, countOfTag]
    apply List.countP_congr
    intro line _
    have kept := firstTag_stampFirst before line
    simp only [firstTag_eq_find?, sameTags] at kept
    simp only [Function.comp_apply, firstTag_eq_find?, kept]
  rw [stampEach_eq_onePass after, stampEach_eq_onePass after]
  simp only [divided, counted, List.flatMap_map, stampFirst_stampFirst before after sameTags]

end Restamping

end VersionStamp.Artifact
