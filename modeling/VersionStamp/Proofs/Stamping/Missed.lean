import VersionStamp.Proofs.Artifact.ReleaseLines
import VersionStamp.Proofs.Stamping.Records

/-! What a run reports as missed.

A target is missed exactly when its tag stands nowhere in the text that its file has when its
turn comes. What it finds then is settled by the targets before it.
-/

namespace VersionStamp

open VersionStamp.Artifact VersionStamp.Files VersionStamp.Log

theorem Report.mem_missed {report : Report} {target : Target} :
    target ∈ report.missed ↔ (target, 0) ∈ report.targets := by
  simp [missed]

theorem Artifact.tag_of_mem_targets {locate : SourceFile → Path} {release : Release}
    {target : Target} (member : target ∈ targets locate release) :
    target.line.tag ≠ "" ∧ '\n' ∉ target.line.tag.toList := by
  obtain ⟨row, inTable, same⟩ := exists_row_of_mem (List.mem_map_of_mem member)
  obtain ⟨blank, unbroken, _⟩ := tag_chars row inTable
  have tag : target.line.tag = row.2.1 := congrArg TaggedLine.tag same
  rw [tag]
  refine ⟨fun empty => ?_, unbroken⟩
  rw [empty] at blank
  exact absurd blank List.not_mem_nil

namespace Stamping

variable {world : World} {files left other : FileSystem} {here : Location}
  {target : Target} {locations : Locations} {release : Release}
  {rewrites others : List (Target × Nat)}

/-- The file of a target has a text in which its tag stands nowhere. -/
def Lacks (here : Location) (files : FileSystem) (target : Target) : Prop :=
  ∃ text, files.readText here target.path = .ok text ∧
    ¬ target.line.tag.toList <:+: text.toList

/-- The files that a target of a report finds when its turn comes: the metadata file is created
and the targets before it are stamped. -/
inductive Turn (locations : Locations) (release : Release) (world : World) (report : Report)
    (target : Target) (files : FileSystem) : Prop where
  | next {before others : List (Target × Nat)} {replaced : Nat} {created : FileSystem}
      (place : report.targets = before ++ (target, replaced) :: others)
      (creation : world.files.create world.directory locations.metadata
        (MetadataText.ofRelease release).toUTF8 = .ok created)
      (rewritten : Rewrites world.directory created before files) :
      Turn locations release world report target files

theorem Rewrites.unique (first : Rewrites here files rewrites left)
    (second : Rewrites here files rewrites other) : left = other := by
  induction first with
  | none files =>
      cases second
      rfl
  | next read written counted rest ih =>
      cases second with
      | next otherRead otherWritten otherCounted otherRest =>
          cases read.symm.trans otherRead
          cases written.symm.trans otherWritten
          exact ih otherRest

theorem Rewrites.replaced_eq_zero_iff {replaced : Nat} (nonempty : target.line.tag ≠ "")
    (unbroken : '\n' ∉ target.line.tag.toList)
    (rewritten : Rewrites here files ((target, replaced) :: others) left) :
    replaced = 0 ↔ Lacks here files target := by
  cases rewritten with
  | next read written counted rest =>
      rw [← counted, TaggedLine.replaced_eq_zero_iff nonempty unbroken]
      constructor
      · intro absent
        exact ⟨_, read, absent⟩
      · rintro ⟨text, found, absent⟩
        cases read.symm.trans found
        exact absent

section Reported

variable {report : Report} {records : List Record}

theorem Course.replaced_eq_zero_iff {before : List (Target × Nat)} {replaced : Nat}
    {created : FileSystem}
    (course : Course locations release world (.ok report) left records)
    (place : report.targets = before ++ (target, replaced) :: others)
    (creation : world.files.create world.directory locations.metadata
      (MetadataText.ofRelease release).toUTF8 = .ok created)
    (first : Rewrites world.directory created before files) :
    replaced = 0 ↔ Lacks world.directory files target := by
  obtain ⟨inOrder, _, _, made, makes, rewritten⟩ := course.of_report
  have member : target ∈ Artifact.targets locations.ofFile release := by
    rw [← inOrder, place]
    simp
  obtain ⟨nonempty, unbroken⟩ := tag_of_mem_targets member
  cases creation.symm.trans makes
  rw [place] at rewritten
  obtain ⟨middle, again, rest⟩ := rewritten.split
  obtain rfl := again.unique first
  exact rest.replaced_eq_zero_iff nonempty unbroken

/-- A finished run reports the targets whose files lacked their tags in their turn. -/
theorem Course.mem_missed_iff
    (course : Course locations release world (.ok report) left records) (target : Target) :
    target ∈ report.missed ↔ ∃ files, Turn locations release world report target files ∧
      Lacks world.directory files target := by
  rw [Report.mem_missed]
  constructor
  · intro missed
    obtain ⟨before, others, place⟩ := List.append_of_mem missed
    obtain ⟨_, _, _, created, creation, rewritten⟩ := course.of_report
    rw [place] at rewritten
    obtain ⟨files, first, _⟩ := rewritten.split
    have lacks := (course.replaced_eq_zero_iff place creation first).mp rfl
    exact ⟨files, .next place creation first, lacks⟩
  · rintro ⟨files, ⟨place, creation, first⟩, lacks⟩
    rw [place, (course.replaced_eq_zero_iff place creation first).mpr lacks]
    simp

end Reported

/-- A tag that fits into a line is missed exactly when it stands nowhere in the text. Whatever
tag and value are, a text in which no line was replaced is left as it was. So a run reports
the targets whose tags stood nowhere in the texts of their files when their turn came. -/
theorem missed_iff_absent :
    (∀ (tagged : TaggedLine) (content : String),
      (tagged.tag ≠ "" → '\n' ∉ tagged.tag.toList →
        ((tagged.stampText content).replaced = 0 ↔
          ¬ tagged.tag.toList <:+: content.toList)) ∧
      ((tagged.stampText content).replaced = 0 →
        (tagged.stampText content).content = content)) ∧
    ∀ (world after : World) (locations : Locations) (release : Release) (report : Report),
      world.perform (stampRelease locations release) = (.ok report, after) →
      ∀ target, target ∈ report.missed ↔
        ∃ files, Turn locations release world report target files ∧
          Lacks world.directory files target := by
  refine ⟨fun tagged content => ⟨fun nonempty unbroken => ?_, ?_⟩, ?_⟩
  · exact TaggedLine.replaced_eq_zero_iff nonempty unbroken content
  · exact tagged.stampText_of_unmarked
  · intro world after locations release report done
    obtain ⟨records, _, course⟩ := stampRelease_course world locations release
    rw [done] at course
    exact course.mem_missed_iff

/-- A tag at the end of one line and its text across two others; a tag with a line feed in it and
the empty tag, which are missed where they stand; and a run that misses eight targets. -/
theorem missed_iff_absent_across_lines :
    let tagged : TaggedLine := { tag := "T\r", value := "v" }
    let broken : TaggedLine := { tag := "b\nc", value := "x\ny" }
    let empty : TaggedLine := { tag := "", value := "v" }
    let header := Path.ofString "app.h"
    let files := (FileSystem.empty.set [header.bytes]
        (.file "constexpr auto AppVersion = 9;\n FILE\nVERSION ".toUTF8 .full)).set
      [(Path.ofString "app.rc").bytes] (.file " FILEVERSION 1\r\n".toUTF8 .full)
    let locations : Locations :=
      { metadata := .ofString "version"
        header
        primaryResource := .ofString "app.rc"
        updaterResource := header }
    let release : Release := ⟨⟨"1", "2", "3", "45"⟩, "0010020345"⟩
    let world : World := { files, directory := [] }
    (tagged.stampText "T\n\r\nT").replaced = 0 ∧ (tagged.stampText "a\nbT\r").replaced ≠ 0 ∧
    ("b\nc".toList <:+: "ab\ncd".toList ∧ (broken.stampText "ab\ncd").content = "ab\ncd") ∧
    ("".toList <:+: "".toList ∧ (empty.stampText "").content = "") ∧
    ∃ report after, world.perform (stampRelease locations release) = (.ok report, after) ∧
      report.missed.length = 8 ∧
      ∀ target ∈ report.missed,
        ∃ files, Turn locations release world report target files ∧ Lacks [] files target := by
  intro tagged broken empty header files locations release world
  obtain ⟨texts, runs⟩ := missed_iff_absent
  have nonempty : tagged.tag ≠ "" := by decide
  have unbroken : '\n' ∉ tagged.tag.toList := by decide +kernel
  have missed : (world.perform (stampRelease locations release)).1.map (·.missed.length) =
      .ok 8 := by
    decide +kernel
  rcases finished : world.perform (stampRelease locations release) with ⟨_ | report, after⟩
  · rw [finished] at missed
    cases missed
  rw [finished] at missed
  refine ⟨?_, ?_, ⟨by decide +kernel, ?_⟩, ⟨List.infix_rfl, ?_⟩, report, after, rfl,
    Except.ok.inj missed, fun target => (runs _ _ _ _ _ finished target).mp⟩
  · exact ((texts tagged _).1 nonempty unbroken).mpr (by decide +kernel)
  · exact fun none => ((texts tagged _).1 nonempty unbroken).mp none (by decide +kernel)
  · exact (texts broken _).2 (by decide +kernel)
  · exact (texts empty _).2 (by decide +kernel)

end Stamping

end VersionStamp
