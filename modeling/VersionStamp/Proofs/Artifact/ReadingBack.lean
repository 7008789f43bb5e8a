import Mathlib.Data.List.DropRight
import VersionStamp.Proofs.Artifact.MetadataLines
import VersionStamp.Proofs.Text.LineSplitting

/-! Reading a release back from its artifacts.

The values of the metadata are read by their column, and the values after the tags are
divided at the marks between the components. Either way the release is recovered.
-/

namespace VersionStamp.Artifact

open VersionStamp.Release VersionStamp.Text

variable {release : Release}

/-- The parts of a text between marks. -/
def partsAt (marks : List Char) (text : String) : List String :=
  (text.toList.splitOnP marks.contains).map String.ofList

def isClosing (c : Char) : Bool :=
  c == '"' || c == ';'

/-- A value without the quote and the semicolon that close it. -/
def withoutClosing (text : String) : String :=
  String.ofList (text.toList.rdropWhile isClosing)

/-- The tag before the build number; the components stand after all others. -/
def numberTag : String := "constexpr auto AppVersion = "

namespace MetadataText

/-- The text of every line from the value column on. -/
def values (text : String) : List String :=
  (splitLines text.toList).map fun line =>
    String.ofList (withoutTerminator (line.drop valueColumn))

/-- A line with a blank before its value column and none in it. -/
structure IsAligned (text : List Char) : Prop where
  terminated : IsTerminated text
  blank : text[valueColumn - 1]? = some ' '
  value : ∃ c, text[valueColumn]? = some c ∧ c ≠ ' '

theorem drop_line {label value : String} (short : label.toList.length < valueColumn) :
    (line label value).drop valueColumn = value.toList ++ ['\n'] := by
  have width : (label.toList.rightpad valueColumn ' ').length = valueColumn := by
    rw [List.length_rightpad]
    omega
  rw [line, List.append_assoc, List.drop_left' width]

theorem isAligned_line {label value : String} (short : label.toList.length < valueColumn)
    (labelled : '\n' ∉ label.toList) (unbroken : '\n' ∉ value.toList)
    (blank : ' ' ∉ value.toList) : IsAligned (line label value) where
  terminated := by
    refine ⟨label.toList.rightpad valueColumn ' ' ++ value.toList, rfl, ?_⟩
    simp [List.rightpad, labelled, unbroken]
  blank := by
    have inside : valueColumn - 1 - label.toList.length < valueColumn - label.toList.length := by
      omega
    have outside : label.toList.length ≤ valueColumn - 1 := by omega
    rw [line, List.rightpad, List.append_assoc, List.append_assoc,
      List.getElem?_append_right outside,
      List.getElem?_append_left (by rwa [List.length_replicate]),
      List.getElem?_replicate_of_lt inside]
  value := by
    have first : (line label value)[valueColumn]? = (value.toList ++ ['\n'])[0]? := by
      rw [← drop_line short, List.getElem?_drop, Nat.add_zero]
    rw [first]
    cases letters : value.toList with
    | nil => exact ⟨'\n', rfl, by decide⟩
    | cons c rest =>
        refine ⟨c, rfl, ?_⟩
        rintro rfl
        simp [letters] at blank

theorem labels_fields (release : Release) : ∀ field ∈ fields release,
    field.1.toList.length < valueColumn ∧ '\n' ∉ field.1.toList := by
  simp only [fields, List.forall_mem_cons, List.not_mem_nil, false_implies, implies_true,
    and_true]
  decide +kernel

theorem notMem_value (numeric : release.IsNumeric) {field : String × String}
    (member : field ∈ fields release) {c : Char} (other : isPlain c = false) :
    c ∉ field.2.toList := by
  intro inside
  rw [isPlain_of_mem_field numeric member inside] at other
  contradiction

theorem isAligned_of_mem (numeric : release.IsNumeric) {field : String × String}
    (member : field ∈ fields release) : IsAligned (line field.1 field.2) := by
  obtain ⟨short, labelled⟩ := labels_fields release field member
  exact isAligned_line short labelled (notMem_value numeric member rfl)
    (notMem_value numeric member rfl)

theorem splitLines_ofRelease (numeric : release.IsNumeric) :
    splitLines (ofRelease release).toList =
      (fields release).map fun field => line field.1 field.2 := by
  have terminated : ∀ text ∈ (fields release).map (fun field => line field.1 field.2),
      IsTerminated text := by
    rintro text member
    obtain ⟨field, inside, rfl⟩ := List.mem_map.mp member
    exact (isAligned_of_mem numeric inside).terminated
  rw [ofRelease, String.toList_ofList, List.flatMap_def]
  exact splitLines_flatten terminated

theorem length_splitLines_ofRelease (numeric : release.IsNumeric) :
    (splitLines (ofRelease release).toList).length = 7 := by
  rw [splitLines_ofRelease numeric, List.length_map]
  rfl

theorem values_ofRelease (numeric : release.IsNumeric) :
    values (ofRelease release) = (fields release).map (·.2) := by
  rw [values, splitLines_ofRelease numeric, List.map_map]
  refine List.map_congr_left fun field member => ?_
  have returns : field.2.toList.getLast? ≠ some '\r' := by
    intro last
    exact notMem_value numeric member rfl (List.mem_of_getLast? last)
  rw [Function.comp_apply, drop_line (labels_fields release field member).1,
    withoutTerminator_append returns, String.ofList_toList]

end MetadataText

theorem partsAt_separated (numeric : release.IsNumeric) {marks : List Char}
    (letters : marks.all (fun c => !c.isDigit) = true) {separator : String} {mark : Char}
    (single : separator.toList = [mark]) (marked : marks.contains mark = true) :
    partsAt marks (release.separated separator) = release.components.toList := by
  have digits : ∀ text ∈ release.components.toList,
      ∀ c ∈ text.toList, marks.contains c = false := by
    intro text part c inside
    have digit := numeric.isDigit_of_mem text part inside
    rw [Bool.eq_false_iff]
    intro member
    have other := List.all_eq_true.mp letters c (List.contains_iff_mem.mp member)
    simp [digit] at other
  obtain ⟨major, minor, patch, material⟩ := Components.forall_mem_toList.mp digits
  rw [partsAt, toList_separated, single]
  simp only [List.append_assoc, List.cons_append, List.nil_append]
  rw [List.splitOnP_append_cons_of_forall_mem major mark marked,
    List.splitOnP_append_cons_of_forall_mem minor mark marked,
    List.splitOnP_append_cons_of_forall_mem patch mark marked,
    List.splitOnP_eq_singleton material]
  simp [Components.toList]

theorem parts_dotted (numeric : release.IsNumeric) :
    partsAt ['.'] release.dottedForm = release.components.toList :=
  partsAt_separated numeric (by decide) rfl (by decide)

theorem withoutClosing_append {text ending : String}
    (kept : ∀ c ∈ text.toList, isClosing c = false)
    (closing : ending.toList.all isClosing = true) :
    withoutClosing (text ++ ending) = text := by
  have dropped : ∀ c ∈ ending.toList.reverse, isClosing c = true := by
    intro c member
    exact List.all_eq_true.mp closing c (List.mem_reverse.mp member)
  have last : text.toList.rdropWhile isClosing = text.toList := by
    rw [List.rdropWhile_eq_self_iff]
    intro nonempty
    simpa using kept _ (List.getLast_mem nonempty)
  rw [withoutClosing, String.toList_append, List.rdropWhile, List.reverse_append,
    List.dropWhile_append_of_pos dropped]
  exact (congrArg String.ofList last).trans String.ofList_toList

theorem isClosing_of_isDigit {c : Char} (digit : c.isDigit = true) : isClosing c = false := by
  rw [Bool.eq_false_iff]
  intro closing
  simp only [isClosing, Bool.or_eq_true, beq_iff_eq] at closing
  rcases closing with rfl | rfl
  · contradiction
  · contradiction

theorem isClosing_separated (numeric : release.IsNumeric) {separator : String}
    (apart : separator.toList.all (fun c => !isClosing c) = true) :
    ∀ c ∈ (release.separated separator).toList, isClosing c = false := by
  intro c inside
  rcases numeric.mem_separated inside with digit | mark
  · exact isClosing_of_isDigit digit
  · simpa using List.all_eq_true.mp apart c mark

theorem Form.parts_render (numeric : release.IsNumeric) (form : Form)
    (shows : form ≠ .numberStatement) :
    partsAt ['.', ','] (withoutClosing (form.render release)) = release.components.toList := by
  have letters : ['.', ','].all (fun c => !c.isDigit) = true := by decide
  have dotted : ∀ c ∈ release.dottedForm.toList, isClosing c = false :=
    isClosing_separated numeric (by decide)
  cases form with
  | quotedStatement =>
      rw [render, withoutClosing_append dotted (by decide)]
      exact partsAt_separated numeric letters rfl (by decide)
  | numberStatement => contradiction
  | resourceNumber =>
      have comma : ∀ c ∈ release.commaForm.toList, isClosing c = false :=
        isClosing_separated numeric (by decide)
      have closed : withoutClosing (release.commaForm ++ "") = release.commaForm :=
        withoutClosing_append comma (by decide)
      rw [String.append_empty] at closed
      rw [render, closed]
      exact partsAt_separated numeric letters rfl (by decide)
  | resourceString =>
      rw [render, withoutClosing_append dotted (by decide)]
      exact partsAt_separated numeric letters rfl (by decide)

theorem Form.withoutClosing_number (numeric : release.IsNumeric) :
    withoutClosing (Form.numberStatement.render release) = release.buildNumber := by
  refine withoutClosing_append (fun c inside => ?_) (by decide)
  exact isClosing_of_isDigit (numeric.buildNumber c inside)

theorem shows_of_mem : ∀ row ∈ table, row.2.1 ≠ numberTag → row.2.2 ≠ .numberStatement := by
  decide +kernel

theorem parts_targets (numeric : release.IsNumeric) (locate : SourceFile → Files.Path) :
    ((targets locate release).filter (·.line.tag != numberTag)).map
        (fun target => partsAt ['.', ','] (withoutClosing target.line.value)) =
      List.replicate 9 release.components.toList := by
  rw [List.eq_replicate_iff]
  constructor
  · have rows : (table.filter fun row => row.2.1 != numberTag).length = 9 := by decide +kernel
    rw [List.length_map, targets, List.filter_map, List.length_map]
    exact rows
  · intro parts member
    obtain ⟨target, kept, rfl⟩ := List.mem_map.mp member
    obtain ⟨inTargets, other⟩ := List.mem_filter.mp kept
    obtain ⟨row, inTable, rfl⟩ := List.mem_map.mp inTargets
    exact Form.parts_render numeric row.2.2 (shows_of_mem row inTable (bne_iff_ne.mp other))

theorem number_targets (numeric : release.IsNumeric) (locate : SourceFile → Files.Path) :
    ((targets locate release).filter (·.line.tag == numberTag)).map
        (fun target => withoutClosing target.line.value) = [release.buildNumber] := by
  have rows : (table.filter fun row => row.2.1 == numberTag) =
      [(.header, numberTag, .numberStatement)] := by decide +kernel
  have shown := Form.withoutClosing_number numeric
  rw [targets, List.filter_map, List.map_map]
  refine (congrArg _ rows).trans ?_
  rw [List.map_singleton, ← shown]
  rfl

theorem eq_of_parts {other : Release} (numbers : release.buildNumber = other.buildNumber)
    (parts : release.components.toList = other.components.toList) : release = other := by
  obtain ⟨⟨major, minor, patch, material⟩, number⟩ := release
  obtain ⟨⟨major', minor', patch', material'⟩, number'⟩ := other
  simp only [Components.toList, List.cons.injEq, and_true] at parts
  obtain ⟨rfl, rfl, rfl, rfl⟩ := parts
  obtain rfl : number = number' := numbers
  rfl

theorem eq_of_ofRelease {other : Release} (numeric : release.IsNumeric)
    (others : other.IsNumeric)
    (same : MetadataText.ofRelease release = MetadataText.ofRelease other) : release = other := by
  have values := congrArg MetadataText.values same
  rw [MetadataText.values_ofRelease numeric, MetadataText.values_ofRelease others] at values
  simp only [MetadataText.fields, List.map_cons, List.cons.injEq] at values
  obtain ⟨numbers, _, dotted, _⟩ := values
  have parts := congrArg (partsAt ['.']) dotted
  rw [parts_dotted numeric, parts_dotted others] at parts
  exact eq_of_parts numbers parts

theorem eq_of_values {other : Release} (numeric : release.IsNumeric) (others : other.IsNumeric)
    {locate elsewhere : SourceFile → Files.Path}
    (same : (targets locate release).map (·.line.value) =
      (targets elsewhere other).map (·.line.value)) : release = other := by
  simp only [targets, table, List.map_cons, List.cons.injEq] at same
  obtain ⟨quoted, number, _⟩ := same
  have parts := congrArg (fun value => partsAt ['.', ','] (withoutClosing value)) quoted
  have numbers := congrArg withoutClosing number
  simp only [Form.parts_render numeric .quotedStatement (by decide),
    Form.parts_render others .quotedStatement (by decide)] at parts
  rw [Form.withoutClosing_number numeric, Form.withoutClosing_number others] at numbers
  exact eq_of_parts numbers parts

/-- The metadata has seven lines with their values in one column. The build number and
the components are read back from these values and from those of the ten targets, so
releases whose metadata or values are the same are the same. -/
theorem release_read_back (numeric : release.IsNumeric) (locate : SourceFile → Files.Path) :
    (splitLines (MetadataText.ofRelease release).toList).length = 7 ∧
    (∀ line ∈ splitLines (MetadataText.ofRelease release).toList,
      MetadataText.IsAligned line) ∧
    MetadataText.values (MetadataText.ofRelease release) =
      [release.buildNumber, release.components.major ++ "." ++ release.components.minor,
        release.dottedForm, release.dottedForm, "0", "0", release.dottedForm] ∧
    partsAt ['.'] release.dottedForm = release.components.toList ∧
    ((targets locate release).filter (·.line.tag != numberTag)).map
        (fun target => partsAt ['.', ','] (withoutClosing target.line.value)) =
      List.replicate 9 release.components.toList ∧
    ((targets locate release).filter (·.line.tag == numberTag)).map
        (fun target => withoutClosing target.line.value) = [release.buildNumber] ∧
    (∀ other : Release, other.IsNumeric →
      MetadataText.ofRelease release = MetadataText.ofRelease other → release = other) ∧
    (∀ (other : Release) (elsewhere : SourceFile → Files.Path), other.IsNumeric →
      (targets locate release).map (·.line.value) =
        (targets elsewhere other).map (·.line.value) → release = other) := by
  refine ⟨MetadataText.length_splitLines_ofRelease numeric, fun line member => ?_,
    MetadataText.values_ofRelease numeric, parts_dotted numeric, parts_targets numeric locate,
    number_targets numeric locate, fun other others same => eq_of_ofRelease numeric others same,
    fun other elsewhere others same => eq_of_values numeric others same⟩
  rw [MetadataText.splitLines_ofRelease numeric] at member
  obtain ⟨field, inside, rfl⟩ := List.mem_map.mp member
  exact MetadataText.isAligned_of_mem numeric inside

theorem release_read_back_of_zeros :
    let release : Release := ⟨⟨"1", "02", "003", "45"⟩, "00100200345"⟩
    MetadataText.values (MetadataText.ofRelease release) =
        ["00100200345", "1.02", "1.02.003.45", "1.02.003.45", "0", "0", "1.02.003.45"] ∧
      ∀ other : Release, other.IsNumeric →
        MetadataText.ofRelease release = MetadataText.ofRelease other → release = other := by
  intro release
  have numeric : release.IsNumeric := by decide +kernel
  obtain ⟨_, _, values, _, _, _, same, _⟩ := release_read_back numeric fun _ => .ofString "x"
  refine ⟨values.trans ?_, same⟩
  decide +kernel

end VersionStamp.Artifact
