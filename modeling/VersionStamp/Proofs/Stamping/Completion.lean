import VersionStamp.Proofs.Artifact.MetadataLines
import VersionStamp.Proofs.Stamping.Contents
import VersionStamp.Proofs.Stamping.Release

/-! What a run leaves that has stamped a release.

The targets are stamped one after another, and several of them into one file. In the end
the lines of all of them stand in their files at once.
-/

namespace VersionStamp.Stamping

open VersionStamp.Artifact VersionStamp.Files VersionStamp.Text

variable {world first last after : World} {locations : Locations} {release : Release}
  {files : FileSystem} {created : Location}

/-- The files before and after a release was stamped, with the metadata file at a
location where nothing was. -/
structure Completed (locations : Locations) (release : Release) (here created : Location)
    (before after : FileSystem) : Prop where
  vacant : before.stored? created = none
  metadata : after.find here locations.metadata =
    .ok (created, .file (MetadataText.ofRelease release).toUTF8 .full)
  /-- In the file of a target every line with its tag is its line. -/
  tagged : ∀ target ∈ targets locations.ofFile release, ∃ location text,
    after.find here target.path = .ok (location, .file (String.toUTF8 text) .full) ∧
    ∀ line ∈ splitLines text.toList, target.line.marks line = true →
      line = target.line.tag.toList ++ target.line.value.toList ++ ['\n'] ∨
      line = target.line.tag.toList ++ target.line.value.toList ++ ['\r', '\n']
  /-- The file of a target was a text before, and a line without any tag of the targets
  that share the file stands where it stood. -/
  untagged : ∀ target ∈ targets locations.ofFile release, ∀ location,
    after.leads here target.path location = true → location ≠ created →
    ∃ old new, before.stored? location = some (.file (String.toUTF8 old) .full) ∧
      after.stored? location = some (.file (String.toUTF8 new) .full) ∧
      ∀ (index : Nat) (line : List Char), (splitLines old.toList)[index]? = some line →
        (∀ other ∈ targets locations.ofFile release,
          after.leads here other.path location = true → other.line.marks line = false) →
        (splitLines new.toList)[index]? = some line
  kept : ∀ location, location ≠ created →
    (∀ target ∈ targets locations.ofFile release,
      after.leads here target.path location = false) →
    after.stored? location = before.stored? location

section Stamped

variable {counts : List Nat} {target : Target} {location : Location}
  (done : first.perform (stampTargets (targets locations.ofFile release)) = (.ok counts, last))

include done

theorem find_stamped (member : target ∈ targets locations.ofFile release) :
    ∃ location old, target.line ∈ linesAt first.files first.directory
        (targets locations.ofFile release) location ∧
      first.files.find first.directory target.path =
        .ok (location, .file (String.toUTF8 old) .full) ∧
      last.files.find first.directory target.path = .ok (location, .file (stampEach (linesAt
        first.files first.directory (targets locations.ofFile release) location) old).1.toUTF8
        .full) := by
  obtain ⟨location, old, found⟩ := find_of_stampTargets done target member
  obtain ⟨text, still⟩ := (stampTargets_ok_alike done).2.symm.find_text found
  have led : target.line ∈ linesAt first.files first.directory
      (targets locations.ofFile release) location :=
    mem_linesAt.mpr ⟨target, member, by simp [FileSystem.leads_of_find found], rfl⟩
  have entry := stored?_stampTargets done location
  rw [FileSystem.stored?_of_find still, FileSystem.stored?_of_find found, Option.map_some,
    stampEntry_text] at entry
  exact ⟨location, old, led, found, still.trans (by rw [Option.some.inj entry])⟩

theorem tagged_of_stamped (numeric : release.IsNumeric)
    (member : target ∈ targets locations.ofFile release) :
    ∃ location text,
      last.files.find first.directory target.path =
        .ok (location, .file (String.toUTF8 text) .full) ∧
      ∀ line ∈ splitLines text.toList, target.line.marks line = true →
        line = target.line.tag.toList ++ target.line.value.toList ++ ['\n'] ∨
        line = target.line.tag.toList ++ target.line.value.toList ++ ['\r', '\n'] := by
  obtain ⟨location, old, led, _, found⟩ := find_stamped done member
  refine ⟨location, _, found, fun line inside marked => ?_⟩
  obtain ⟨ended, rfl⟩ := exists_inPlaceOf_of_marks (separate_linesAt numeric (.refl _) _ _ location)
    inside led marked
  rcases terminator_cases ended with ending | ending
  · exact .inr (by rw [TaggedLine.inPlaceOf, ending])
  · exact .inl (by rw [TaggedLine.inPlaceOf, ending])

theorem untagged_of_stamped (numeric : release.IsNumeric)
    (member : target ∈ targets locations.ofFile release)
    (leads : last.files.leads first.directory target.path location = true) :
    ∃ old new, first.files.stored? location = some (.file (String.toUTF8 old) .full) ∧
      last.files.stored? location = some (.file (String.toUTF8 new) .full) ∧
      ∀ (index : Nat) (line : List Char), (splitLines old.toList)[index]? = some line →
        (∀ other ∈ targets locations.ofFile release,
          last.files.leads first.directory other.path location = true →
            other.line.marks line = false) →
        (splitLines new.toList)[index]? = some line := by
  obtain ⟨place, old, _, found, still⟩ := find_stamped done member
  rw [FileSystem.leads_of_find still, beq_iff_eq] at leads
  subst leads
  refine ⟨old, _, FileSystem.stored?_of_find found, FileSystem.stored?_of_find still,
    fun index line there unmarked => ?_⟩
  apply getElem?_stampEach_of_unmarked (separate_linesAt numeric (.refl _) _ _ place) there
  intro tagged stamped
  obtain ⟨other, inTargets, led, rfl⟩ := mem_linesAt.mp stamped
  exact unmarked other inTargets (by rw [(stampTargets_ok_alike done).2.leads, led])

theorem kept_of_stamped
    (unled : ∀ target ∈ targets locations.ofFile release,
      last.files.leads first.directory target.path location = false) :
    last.files.stored? location = first.files.stored? location := by
  have unaddressed :
      linesAt first.files first.directory (targets locations.ofFile release) location = [] := by
    rw [linesAt, List.map_eq_nil_iff, List.filter_eq_nil_iff]
    intro target member
    rw [← (stampTargets_ok_alike done).2.leads, unled target member]
    exact Bool.false_ne_true
  rw [stored?_stampTargets done location, unaddressed, map_stampEntry_nil]

theorem stored?_metadata (numeric : release.IsNumeric)
    (placed : first.files.stored? created =
      some (.file (MetadataText.ofRelease release).toUTF8 .full)) :
    last.files.stored? created =
      some (.file (MetadataText.ofRelease release).toUTF8 .full) := by
  have unmarked : ∀ line ∈ splitLines (MetadataText.ofRelease release).toList,
      ∀ tagged ∈ linesAt first.files first.directory (targets locations.ofFile release) created,
        tagged.marks line = false := by
    intro line inside tagged member
    obtain ⟨target, inTargets, _, rfl⟩ := mem_linesAt.mp member
    exact marks_metadata numeric (List.mem_map_of_mem inTargets) inside
  rw [stored?_stampTargets done, placed, Option.map_some, stampEntry_text,
    stampEach_of_unmarked (separate_linesAt numeric (.refl _) _ _ _) unmarked]

theorem find_metadata (numeric : release.IsNumeric) {path : Path}
    (found : first.files.find first.directory path =
      .ok (created, .file (MetadataText.ofRelease release).toUTF8 .full)) :
    last.files.find first.directory path =
      .ok (created, .file (MetadataText.ofRelease release).toUTF8 .full) := by
  obtain ⟨text, still⟩ := (stampTargets_ok_alike done).2.symm.find_text found
  have stays := stored?_metadata done numeric (FileSystem.stored?_of_find found)
  rw [still, Option.some.inj ((FileSystem.stored?_of_find still).symm.trans stays)]

end Stamped

theorem completed_of_stamped {counts : List Nat} (numeric : release.IsNumeric)
    (done : first.perform (stampTargets (targets locations.ofFile release)) = (.ok counts, last))
    (placed : first.files =
      files.set created (.file (MetadataText.ofRelease release).toUTF8 .full))
    (vacant : files.stored? created = none)
    (found : first.files.find first.directory locations.metadata =
      .ok (created, .file (MetadataText.ofRelease release).toUTF8 .full)) :
    Completed locations release first.directory created files last.files := by
  have before {location : Location} (other : location ≠ created) :
      first.files.stored? location = files.stored? location := by
    rw [placed, FileSystem.stored?_set, if_neg other.symm]
  refine ⟨vacant, find_metadata done numeric found, ?_, ?_, ?_⟩
  · intro target member
    exact tagged_of_stamped done numeric member
  · intro target member location leads other
    rw [← before other]
    exact untagged_of_stamped done numeric member leads
  · intro location other unled
    rw [← before other]
    exact kept_of_stamped done unled

/-- A run that succeeds leaves the metadata file, and in the file of every target its
line in the place of each line with its tag. All other lines and files stay. -/
theorem stampRelease_completed {report : Report} (numeric : release.IsNumeric)
    (stamped : world.perform (stampRelease locations release) = (.ok report, after)) :
    report.metadata = locations.metadata ∧
    report.targets.map Prod.fst =
      [ { path := locations.header,
          line := ⟨"constexpr auto AppVersionStr = \"", release.dottedForm ++ "\";"⟩ },
        { path := locations.header,
          line := ⟨"constexpr auto AppVersion = ", release.buildNumber ++ ";"⟩ },
        { path := locations.primaryResource, line := ⟨" FILEVERSION ", release.commaForm⟩ },
        { path := locations.primaryResource, line := ⟨" PRODUCTVERSION ", release.commaForm⟩ },
        { path := locations.updaterResource, line := ⟨" FILEVERSION ", release.commaForm⟩ },
        { path := locations.updaterResource, line := ⟨" PRODUCTVERSION ", release.commaForm⟩ },
        { path := locations.primaryResource,
          line := ⟨"            VALUE \"FileVersion\", \"", release.dottedForm ++ "\""⟩ },
        { path := locations.updaterResource,
          line := ⟨"            VALUE \"FileVersion\", \"", release.dottedForm ++ "\""⟩ },
        { path := locations.primaryResource,
          line := ⟨"            VALUE \"ProductVersion\", \"", release.dottedForm ++ "\""⟩ },
        { path := locations.updaterResource,
          line := ⟨"            VALUE \"ProductVersion\", \"", release.dottedForm ++ "\""⟩ } ] ∧
    ∃ created, Completed locations release world.directory created world.files after.files := by
  obtain ⟨created, counts, last, creation, done, rfl, same⟩ := stampRelease_ok stamped
  have vacant := FileSystem.vacant_of_creatable creation
  have found :=
    FileSystem.find_after_create creation (MetadataText.ofRelease release).toUTF8
  have completed := completed_of_stamped numeric done rfl vacant found
  rw [same.files]
  exact ⟨rfl, List.map_fst_zip (Nat.le_of_eq (length_of_stampTargets done).symm), created, completed⟩

/-- All targets share one file, which the paths of the resources reach through a link, and
the metadata file is put beside it. -/
theorem stampRelease_completed_shared :
    let header := Path.ofString "app.h"
    let files := (FileSystem.empty.set [header.bytes]
        (.file " FILEVERSION 9 PRODUCTVERSION 9\r\nkept\n".toUTF8 .full)).set
      [(Path.ofString "app.rc").bytes] (.link header)
    let locations : Locations :=
      { metadata := .ofString "version"
        header
        primaryResource := .ofString "app.rc"
        updaterResource := .ofString "app.rc" }
    let release : Release := ⟨⟨"1", "2", "3", "45"⟩, "0010020345"⟩
    let report : Report :=
      { metadata := locations.metadata
        targets := (targets locations.ofFile release).zip [0, 0, 1, 0, 1, 0, 0, 0, 0, 0] }
    let world : World := { files, directory := [] }
    release.IsNumeric ∧ ∃ after, world.perform (stampRelease locations release) =
        (.ok report, after) ∧
      after.files.read [] header = .ok " FILEVERSION 1,2,3,45\r\nkept\n".toUTF8 ∧
      after.files.read [] locations.metadata = .ok (MetadataText.ofRelease release).toUTF8 ∧
      ∃ created, Completed locations release [] created files after.files := by
  intro header files locations release report world
  have numeric : release.IsNumeric := by decide +kernel
  have done : (world.perform (stampRelease locations release)).1 = .ok report ∧
      (world.perform (stampRelease locations release)).2.files.read [] header =
        .ok " FILEVERSION 1,2,3,45\r\nkept\n".toUTF8 ∧
      (world.perform (stampRelease locations release)).2.files.read [] locations.metadata =
        .ok (MetadataText.ofRelease release).toUTF8 := by
    decide +kernel
  rcases ended : world.perform (stampRelease locations release) with ⟨outcome, after⟩
  rw [ended] at done
  obtain ⟨succeeded, stamped, metadata⟩ := done
  subst succeeded
  exact ⟨numeric, after, rfl, stamped, metadata, (stampRelease_completed numeric ended).2.2⟩

end VersionStamp.Stamping
