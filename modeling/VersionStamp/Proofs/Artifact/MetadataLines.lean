import VersionStamp.Artifact.MetadataText
import VersionStamp.Proofs.Artifact.ReleaseLines

/-! No tag stands in the metadata of a release.

Every tag has a capital E or a small x, which neither the labels of the metadata nor the
values of a release have. A target that leads to the metadata file leaves it as it is.
-/

namespace VersionStamp.Artifact

open VersionStamp.Release VersionStamp.Text

variable {release : Release}

theorem tag_letters : ∀ row ∈ table, 'E' ∈ row.2.1.toList ∨ 'x' ∈ row.2.1.toList := by
  decide +kernel

theorem isPlain_of_mem_field (numeric : release.IsNumeric) {field : String × String}
    (member : field ∈ MetadataText.fields release) {c : Char} (inside : c ∈ field.2.toList) :
    isPlain c = true := by
  have dotted (inside : c ∈ release.dottedForm.toList) : isPlain c = true :=
    Form.isPlain_of_mem_render numeric .resourceString (by simp [Form.render, inside])
  have series (inside : c ∈ release.seriesForm.toList) : isPlain c = true := by
    apply dotted
    rw [Release.dottedForm, toList_separated]
    simp only [Release.seriesForm, String.toList_append, List.mem_append] at inside ⊢
    exact .inl (.inl (.inl (.inl inside)))
  simp only [MetadataText.fields, List.mem_cons, List.not_mem_nil, or_false] at member
  rcases member with rfl | rfl | rfl | rfl | rfl | rfl | rfl
  · exact isPlain_of_isDigit (numeric.buildNumber c inside)
  · exact series inside
  · exact dotted inside
  · exact dotted inside
  · obtain rfl := List.mem_singleton.mp inside
    rfl
  · obtain rfl := List.mem_singleton.mp inside
    rfl
  · exact dotted inside

theorem notMem_ofRelease (numeric : release.IsNumeric) {c : Char} (letter : c = 'E' ∨ c = 'x') :
    c ∉ (MetadataText.ofRelease release).toList := by
  intro member
  rw [MetadataText.ofRelease, String.toList_ofList, List.mem_flatMap] at member
  obtain ⟨field, inFields, inside⟩ := member
  have plain : isPlain c = false := by rcases letter with rfl | rfl <;> rfl
  have blank : c ≠ ' ' := by rcases letter with rfl | rfl <;> decide +kernel
  have feed : c ≠ '\n' := by rcases letter with rfl | rfl <;> decide +kernel
  have unlabelled : ∀ field ∈ MetadataText.fields release, c ∉ field.1.toList := by
    simp only [MetadataText.fields, List.forall_mem_cons, List.not_mem_nil, false_implies,
      implies_true, and_true]
    rcases letter with rfl | rfl <;> decide +kernel
  have value : c ∉ field.2.toList := by
    intro inside
    rw [isPlain_of_mem_field numeric inFields inside] at plain
    contradiction
  simp only [MetadataText.line, List.rightpad, List.mem_append, List.mem_replicate,
    List.mem_singleton] at inside
  rcases inside with ((label | ⟨_, isBlank⟩) | inValue) | isFeed
  · exact unlabelled field inFields label
  · exact blank isBlank
  · exact value inValue
  · exact feed isFeed

/-- No target of a release marks a line of its metadata, or of that of another one. -/
theorem marks_metadata {other : Release} (numeric : release.IsNumeric)
    {locate : SourceFile → Files.Path} {tagged : TaggedLine}
    (member : tagged ∈ (targets locate other).map (·.line)) {line : List Char}
    (inside : line ∈ splitLines (MetadataText.ofRelease release).toList) :
    tagged.marks line = false := by
  obtain ⟨row, inTable, rfl⟩ := exists_row_of_mem member
  rw [Bool.eq_false_iff]
  intro marked
  have stands := (occursIn_iff.mp marked).trans (infix_of_mem_splitLines inside)
  rcases tag_letters row inTable with capital | small
  · exact notMem_ofRelease numeric (.inl rfl) (stands.subset capital)
  · exact notMem_ofRelease numeric (.inr rfl) (stands.subset small)

end VersionStamp.Artifact
