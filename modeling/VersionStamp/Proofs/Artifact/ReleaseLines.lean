import VersionStamp.Artifact.Targets
import VersionStamp.Proofs.Artifact.FirstTag
import VersionStamp.Proofs.Release.Numeric

/-! The tagged lines of a release do not disturb each other.

The values of a release are digits and a few marks, and no tag has a digit in it. So a
tag can stand in a stamped line only within the tag of that line, where no other one
does, and stamping the targets one after another is one pass.
-/

namespace VersionStamp.Artifact

open VersionStamp.Release VersionStamp.Text

variable {release : Release}

theorem Form.isPlain_of_mem_render (numeric : release.IsNumeric) (form : Form) {c : Char}
    (member : c ∈ (form.render release).toList) : isPlain c = true := by
  have marks {text : String} (plain : text.toList.all isPlain = true) (mark : c ∈ text.toList) :
      isPlain c = true := List.all_eq_true.mp plain c mark
  have separated {separator : String} (plain : separator.toList.all isPlain = true)
      (inside : c ∈ (release.separated separator).toList) : isPlain c = true :=
    (numeric.mem_separated inside).elim isPlain_of_isDigit (marks plain)
  cases form with
  | quotedStatement | resourceString =>
      simp only [render, String.toList_append, List.mem_append] at member
      exact member.elim (separated (by decide)) (marks (by decide))
  | numberStatement =>
      simp only [render, String.toList_append, List.mem_append] at member
      exact member.elim (fun digit => isPlain_of_isDigit (numeric.buildNumber c digit))
        (marks (by decide))
  | resourceNumber => exact separated (by decide) member

theorem Form.render_head (numeric : release.IsNumeric) (form : Form) :
    ∃ c rest, (form.render release).toList = c :: rest ∧ (c.isDigit = true ∨ c = ';') := by
  obtain ⟨dotted, dottedRest, dottedForm, dottedDigit⟩ := numeric.separated_head "."
  obtain ⟨comma, commaRest, commaForm, commaDigit⟩ := numeric.separated_head ","
  have ended (ending : String) : ∃ c rest, (release.dottedForm ++ ending).toList = c :: rest ∧
      (c.isDigit = true ∨ c = ';') :=
    ⟨dotted, dottedRest ++ ending.toList,
      by rw [Release.dottedForm, String.toList_append, dottedForm, List.cons_append],
      .inl dottedDigit⟩
  cases form with
  | quotedStatement => exact ended "\";"
  | numberStatement =>
      cases digits : release.buildNumber.toList with
      | nil => exact ⟨';', [], by simp [render, digits], .inr rfl⟩
      | cons c rest =>
          exact ⟨c, rest ++ [';'], by simp [render, digits],
            .inl (numeric.buildNumber c (by simp [digits]))⟩
  | resourceNumber => exact ⟨comma, commaRest, commaForm, .inl commaDigit⟩
  | resourceString => exact ended "\""

/-- A tag has a blank in it, but neither a digit nor anything that ends a line. -/
theorem tag_chars : ∀ row ∈ table, ' ' ∈ row.2.1.toList ∧ '\n' ∉ row.2.1.toList ∧
    '\r' ∉ row.2.1.toList ∧ ';' ∉ row.2.1.toList ∧
    (row.2.1.toList.all fun c => !c.isDigit) = true := by
  decide +kernel

/-- No tag stands in another one, and a tag goes with one form. -/
theorem tag_apart : ∀ one ∈ table, ∀ other ∈ table,
    occursIn other.2.1.toList one.2.1.toList = true → other.2 = one.2 := by
  decide +kernel

theorem exists_row_of_mem {locate : SourceFile → Files.Path} {tagged : TaggedLine}
    (member : tagged ∈ (targets locate release).map (·.line)) :
    ∃ row ∈ table, tagged = ⟨row.2.1, row.2.2.render release⟩ := by
  simp only [targets, List.map_map, List.mem_map] at member
  obtain ⟨row, inTable, rfl⟩ := member
  exact ⟨row, inTable, rfl⟩

theorem fits_of_row (numeric : release.IsNumeric) {row : SourceFile × String × Form}
    (member : row ∈ table) : TaggedLine.Fits ⟨row.2.1, row.2.2.render release⟩ := by
  have absent {c : Char} (special : c ∉ row.2.1.toList) (marked : isPlain c = false) :
      c ∉ row.2.1.toList ++ (row.2.2.render release).toList := by
    rw [List.mem_append, not_or]
    refine ⟨special, fun inside => ?_⟩
    rw [row.2.2.isPlain_of_mem_render numeric inside] at marked
    contradiction
  obtain ⟨_, noFeed, noReturn, _⟩ := tag_chars row member
  constructor
  · exact absent noFeed rfl
  · intro last
    exact absent noReturn rfl (List.mem_of_getLast? last)

/-- A tag that stands in a stamped line stands in its tag: it cannot hold the first
character of the value, and what follows that has no blank. -/
theorem occursIn_of_marks (numeric : release.IsNumeric) {one other : SourceFile × String × Form}
    (second : other ∈ table) {line : List Char}
    (marked : TaggedLine.marks ⟨other.2.1, other.2.2.render release⟩
      (TaggedLine.inPlaceOf ⟨one.2.1, one.2.2.render release⟩ line) = true) :
    occursIn other.2.1.toList one.2.1.toList = true := by
  obtain ⟨blank, _, _, noSemicolon, noDigit⟩ := tag_chars other second
  obtain ⟨c, rest, value, first⟩ := one.2.2.render_head numeric
  have inside : other.2.1.toList <:+: one.2.1.toList ++ c :: (rest ++ terminator line) := by
    have stands := occursIn_iff.mp marked
    simpa [TaggedLine.inPlaceOf, value] using stands
  have absent : c ∉ other.2.1.toList := by
    intro member
    rcases first with digit | rfl
    · have other := List.all_eq_true.mp noDigit c member
      simp [digit] at other
    · exact noSemicolon member
  rcases infix_append_cons absent inside with within | behind
  · exact occursIn_iff.mpr within
  · rcases List.mem_append.mp (behind.subset blank) with inValue | inTerminator
    · have plain := one.2.2.isPlain_of_mem_render numeric (c := ' ') (by simp [value, inValue])
      contradiction
    · rcases terminator_cases line with ending | ending <;> simp [ending] at inTerminator

theorem separate_targets (numeric : release.IsNumeric) (locate : SourceFile → Files.Path) :
    Separate ((targets locate release).map (·.line)) := by
  constructor
  · intro one member
    obtain ⟨row, inTable, rfl⟩ := exists_row_of_mem member
    exact fits_of_row numeric inTable
  · intro one first other second line marked
    obtain ⟨row, inTable, rfl⟩ := exists_row_of_mem first
    obtain ⟨otherRow, otherInTable, rfl⟩ := exists_row_of_mem second
    have same := tag_apart row inTable otherRow otherInTable
      (occursIn_of_marks numeric otherInTable marked)
    rw [same]
  · intro one first other second sameTag
    obtain ⟨row, inTable, rfl⟩ := exists_row_of_mem first
    obtain ⟨otherRow, otherInTable, rfl⟩ := exists_row_of_mem second
    have stands : occursIn otherRow.2.1.toList row.2.1.toList = true := by
      simp only at sameTag
      rw [sameTag]
      exact occursIn_iff.mpr List.infix_rfl
    rw [tag_apart row inTable otherRow otherInTable stands]

/-- Stamping any of the targets in their order, even into one text, is one pass: a line
with some of their tags becomes the line of the first of these, ended as it was, and
each target replaces the lines whose first tag is its own. -/
theorem stampEach_targets_eq_onePass (numeric : release.IsNumeric)
    (locate : SourceFile → Files.Path) {chosen : List Target}
    (inOrder : chosen.Sublist (targets locate release)) (content : String) :
    stampEach (chosen.map (·.line)) content =
      (String.ofList ((splitLines content.toList).flatMap (stampFirst (chosen.map (·.line)))),
        chosen.map fun target => countOfTag (chosen.map (·.line)) content target.line.tag) := by
  have separate := (separate_targets numeric locate).sublist (inOrder.map (·.line))
  rw [stampEach_eq_onePass separate, List.map_map]
  rfl

/-- Two tags in one line, one of which occurs twice among the targets, and a last line
without a line feed. -/
theorem stampEach_targets_of_two_tags :
    let release : Release := ⟨⟨"1", "2", "3", "45"⟩, "0010020345"⟩
    let chosen := ((targets (fun _ => ⟨[]⟩) release).take 5).drop 1
    release.IsNumeric ∧ chosen.Sublist (targets (fun _ => ⟨[]⟩) release) ∧
      stampEach (chosen.map (·.line))
          " PRODUCTVERSION 9 FILEVERSION 9\r\nkept\r\nconstexpr auto AppVersion = 9" =
        (" FILEVERSION 1,2,3,45\r\nkept\r\nconstexpr auto AppVersion = 0010020345;\n",
          [1, 1, 0, 1]) := by
  intro release chosen
  have numeric : release.IsNumeric := by decide +kernel
  have inOrder : chosen.Sublist (targets (fun _ => ⟨[]⟩) release) :=
    (List.drop_sublist 1 _).trans (List.take_sublist 5 _)
  exact ⟨numeric, inOrder,
    (stampEach_targets_eq_onePass numeric (fun _ => ⟨[]⟩) inOrder _).trans (by decide +kernel)⟩

end VersionStamp.Artifact
