import VersionStamp.Proofs.Artifact.ReadingBack
import VersionStamp.Proofs.Stamping.Acceptance
import VersionStamp.Proofs.Stamping.Completion
import VersionStamp.Settings.Document

/-! When a run stamps a numeral as its build number.

Every answer is checked to be a numeral, but the lead of the prefixed scheme is taken from
the settings as it is. Digits there are all that is needed for a numeral.
-/

namespace VersionStamp.Stamping

open VersionStamp.Artifact VersionStamp.Files VersionStamp.Release VersionStamp.Text

variable {locations : Locations} {settings : BuildNumberSettings} {world after : World}
  {release : Release} {report : Report}

theorem completed_of_renewed (numeric : release.IsNumeric)
    (done : world.perform (renew locations release) = (.ok report, after)) :
    ∃ created before, Completed locations release world.directory created before after.files := by
  rw [renew, World.perform_bind] at done
  rcases makeRoom_cases world locations with ⟨failure, failed⟩ | ⟨room, made, _, _⟩
  · rw [failed] at done
    cases (Prod.mk.inj done).1
  · -- the paths lead on from the same directory
    rw [made] at done
    obtain ⟨_, _, _, left⟩ := storage_makeRoom locations world
    simp only [made] at left
    have here : room.directory = world.directory := by rw [left]
    obtain ⟨created, counts, last, creation, stamped, _, same⟩ := stampRelease_ok done
    have vacant := FileSystem.vacant_of_creatable creation
    have found :=
      FileSystem.find_after_create creation (MetadataText.ofRelease release).toUTF8
    have completed := completed_of_stamped numeric stamped rfl vacant found
    rw [← here, same.files]
    exact ⟨created, room.files, completed⟩

/-- The build number of a release that was asked for is never empty, and it is a numeral
unless the lead of the prefixed scheme has other letters than digits. -/
theorem numerals_of_hold
    (ended : world.perform (Dialogue.hold World.answer (Dialogue.release settings)) =
      (.ok release, after)) :
    (∀ text ∈ release.components.toList, isNumeral text.toList = true) ∧
      release.buildNumber.toList ≠ [] ∧
      (isNumeral release.buildNumber.toList = true ↔
        (settings.scheme = .prefixed → settings.lead.toList.all Char.isDigit = true)) := by
  rcases dialogue_cases settings world with
    ⟨failure, _, _, failed⟩ | ⟨other, _, _, agreed, held, _⟩
  · rw [ended] at failed
    cases (Prod.mk.inj failed).1
  · rw [ended] at agreed
    cases (Prod.mk.inj agreed).1
    exact Dialogue.numerals_of_held held

theorem renewed_of_run
    (done : world.perform (run locations settings World.answer) = (.ok report, after)) :
    ∃ release agreed left,
      world.perform (Dialogue.hold World.answer (Dialogue.release settings)) =
        (.ok release, agreed) ∧
      world.perform (renew locations release) = (.ok report, left) ∧
      left.files = after.files := by
  rcases dialogue_cases settings world with
    ⟨failure, _, _, failed⟩ | ⟨release, _, agreed, ended, _, _, same⟩
  · rw [run_of_dialogue_error failed] at done
    cases (Prod.mk.inj done).1
  · obtain ⟨last, ran, files, _⟩ := run_of_accepted ended same
    rw [ran, Prod.mk.injEq] at done
    obtain ⟨result, rfl⟩ := done
    rcases renewed : world.perform (renew locations release) with ⟨failure | other, left⟩
    · rw [renewed] at result
      cases result
    · rw [renewed] at result files
      cases result
      exact ⟨release, agreed, left, ended, renewed, files.symm⟩

theorem number_target (locate : SourceFile → Path) (release : Release) :
    { path := locate .header
      line := { tag := numberTag, value := Form.numberStatement.render release } } ∈
      targets locate release := by
  have row : (.header, numberTag, .numberStatement) ∈ table := by decide +kernel
  exact List.mem_map_of_mem row

theorem isNumeric_of_isNumeral
    (parts : ∀ text ∈ release.components.toList, isNumeral text.toList = true)
    (number : isNumeral release.buildNumber.toList = true) : release.IsNumeric := by
  rw [isNumeric_iff]
  exact ⟨parts, List.all_eq_true.mp (all_of_isNumeral number)⟩

/-- Whatever is answered, a release has a build number that is not empty. It is a numeral
exactly when the lead has digits alone, where the scheme uses it. The metadata of a run then
has seven lines, and the header a numeral behind the tag of the build number. -/
theorem buildNumber_after_answers (locations : Locations) (settings : BuildNumberSettings)
    (world : World) :
    (∀ release after, world.perform (Dialogue.hold World.answer (Dialogue.release settings)) =
        (.ok release, after) →
      release.buildNumber.toList ≠ [] ∧
      (isNumeral release.buildNumber.toList = true ↔
        (settings.scheme = .prefixed → settings.lead.toList.all Char.isDigit = true))) ∧
    ((settings.scheme = .prefixed → settings.lead.toList.all Char.isDigit = true) →
      ∀ report after, world.perform (run locations settings World.answer) =
          (.ok report, after) →
        ∃ release, isNumeral release.buildNumber.toList = true ∧
          (∃ location, after.files.find world.directory locations.metadata =
            .ok (location, .file (MetadataText.ofRelease release).toUTF8 .full)) ∧
          (splitLines (MetadataText.ofRelease release).toList).length = 7 ∧
          ∃ location text, after.files.find world.directory locations.header =
              .ok (location, .file (String.toUTF8 text) .full) ∧
            ∀ line ∈ splitLines text.toList, occursIn numberTag.toList line = true →
              line = numberTag.toList ++ release.buildNumber.toList ++ [';', '\n'] ∨
              line = numberTag.toList ++ release.buildNumber.toList ++ [';', '\r', '\n']) := by
  constructor
  · intro release after ended
    exact (numerals_of_hold ended).2
  · intro digits report after done
    obtain ⟨release, agreed, left, ended, renewed, files⟩ := renewed_of_run done
    obtain ⟨parts, _, numeral⟩ := numerals_of_hold ended
    have number := numeral.mpr digits
    have numeric := isNumeric_of_isNumeral parts number
    obtain ⟨created, before, completed⟩ := completed_of_renewed numeric renewed
    rw [files] at completed
    obtain ⟨location, text, found, tagged⟩ :=
      completed.tagged _ (number_target locations.ofFile release)
    refine ⟨release, number, ⟨created, completed.metadata⟩,
      MetadataText.length_splitLines_ofRelease numeric, location, text, found, ?_⟩
    intro line inside marked
    have shown := tagged line inside marked
    simpa [Form.render] using shown

/-- The default lead, with all targets in one file. -/
theorem buildNumber_after_answers_of_default :
    let header := Path.ofString "app.h"
    let locations : Locations :=
      { metadata := .ofString "version"
        header
        primaryResource := header
        updaterResource := header }
    let settings : BuildNumberSettings := { scheme := .prefixed }
    let world : World :=
      { files := FileSystem.empty.set [header.bytes]
          (.file "constexpr auto AppVersion = 1;\r\n".toUTF8 .full)
        directory := []
        answers := [" 1", "2 ", "3", "4", "0017"].map .ok }
    ∃ report after, world.perform (run locations settings World.answer) = (.ok report, after) ∧
      ∃ release, isNumeral release.buildNumber.toList = true ∧
        (splitLines (MetadataText.ofRelease release).toList).length = 7 ∧
        ∃ location, after.files.find [] locations.metadata =
          .ok (location, .file (MetadataText.ofRelease release).toUTF8 .full) := by
  intro header locations settings world
  have digits : settings.scheme = .prefixed → settings.lead.toList.all Char.isDigit = true := by
    decide +kernel
  have done : (world.perform (run locations settings World.answer)).1.toBool = true := by
    decide +kernel
  rcases ended : world.perform (run locations settings World.answer) with ⟨_ | report, after⟩
  · rw [ended] at done
    contradiction
  · obtain ⟨release, number, written, lines, _⟩ :=
      (buildNumber_after_answers locations settings world).2 digits report after ended
    exact ⟨report, after, rfl, release, number, lines, written⟩

/-- A lead with a line feed in it, which a settings file can hold, breaks the first line of
the metadata in two. -/
theorem buildNumber_of_broken_lead :
    let text := "[build_number]\nscheme = \"prefixed\"\nprefix = \"5\\n10\"\n"
    let world : World :=
      { files := .empty, directory := [], answers := ["1", "2", "3", "4", "17"].map .ok }
    ∃ settings release after, Settings.ofDocument? text = some settings ∧
      world.perform (Dialogue.hold World.answer (Dialogue.release settings.buildNumber)) =
        (.ok release, after) ∧
      isNumeral release.buildNumber.toList = false ∧
      (splitLines (MetadataText.ofRelease release).toList).length = 8 := by
  intro text world
  let settings : Settings := { buildNumber := { scheme := .prefixed, lead := "5\n10" } }
  let release : Release := ⟨⟨"1", "2", "3", "4"⟩, "5\n1017"⟩
  have read : Settings.ofDocument? text = some settings := by decide +kernel
  have agreed : (world.perform
      (Dialogue.hold World.answer (Dialogue.release settings.buildNumber))).1 = .ok release := by
    decide +kernel
  rcases ended : world.perform
      (Dialogue.hold World.answer (Dialogue.release settings.buildNumber)) with ⟨outcome, after⟩
  rw [ended] at agreed
  subst agreed
  exact ⟨settings, release, after, read, ended, by decide +kernel, by decide +kernel⟩

end VersionStamp.Stamping
