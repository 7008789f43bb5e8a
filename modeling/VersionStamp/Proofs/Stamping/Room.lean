import VersionStamp.Proofs.Files.Clearance
import VersionStamp.Proofs.Stamping.Acceptance

/-! Room for the metadata file.

Once room is made, nothing is in the way of the metadata file, so no run fails because the
file of an earlier run is there. A directory is not cleared away.
-/

namespace VersionStamp.Stamping

open VersionStamp.Artifact VersionStamp.Files VersionStamp.Release

variable {world : World} {locations : Locations} {release : Release}

theorem creationFailure_ne_exists {cause : FileFailure} (other : cause ≠ .alreadyExists)
    (path taken : Path) : creationFailure path cause ≠ .metadataExists taken := by
  cases cause <;> first | contradiction | simp [creationFailure]

theorem createMetadata_ne_exists
    (missing : world.files.remove world.directory locations.metadata = .error .notFound)
    (release : Release) (taken : Path) :
    (world.perform (createMetadata locations.metadata release)).1 ≠
      .error (.metadataExists taken) := by
  have free := FileSystem.creatable_of_missing missing
  rcases createMetadata_cases world locations.metadata release with
    ⟨cause, creation, failed⟩ | ⟨_, _, ⟨_, _, torn⟩ | ⟨_, done⟩⟩
  · have other : cause ≠ .alreadyExists := fun same => free (same ▸ creation)
    rw [failed]
    simpa using creationFailure_ne_exists other locations.metadata taken
  · rw [torn]
    simp
  · rw [done]
    simp

theorem stampRelease_ne_exists
    (missing : world.files.remove world.directory locations.metadata = .error .notFound)
    (release : Release) (taken : Path) :
    (world.perform (stampRelease locations release)).1 ≠ .error (.metadataExists taken) := by
  rcases ended : world.perform (stampRelease locations release) with ⟨failure | report, after⟩
  · rcases stampRelease_error ended with
      ⟨cause, creation, rfl, _⟩ | ⟨_, _, ⟨_, _, rfl, _⟩ | ⟨_, last, stopped, _⟩⟩
    · have free := FileSystem.creatable_of_missing missing
      have other : cause ≠ .alreadyExists := fun same => free (same ▸ creation)
      simpa using creationFailure_ne_exists other locations.metadata taken
    · simp
    · obtain ⟨_, target, _, _, _, _, failed⟩ := stampTargets_error stopped
      obtain ⟨_, rfl | rfl⟩ := (stampTarget_error failed).1.path_eq
      · simp
      · simp
  · simp

theorem renew_ne_exists (locations : Locations) (release : Release) (world : World)
    (taken : Path) :
    (world.perform (renew locations release)).1 ≠ .error (.metadataExists taken) := by
  rw [renew, World.perform_bind]
  rcases makeRoom_cases world locations with ⟨cause, failed⟩ | ⟨room, made, missing, _⟩
  · rw [failed]
    simp
  · rw [made]
    exact stampRelease_ne_exists missing release taken

/-- Whatever is at the path of the metadata file and whichever way leads there, a creation
right after room was made does not find the file there, and neither does any run, whatever
its answers. Where the path names a directory itself, no room is made and nothing changes. -/
theorem metadata_never_in_the_way (locations : Locations) (world : World) :
    (∀ room, world.perform (makeRoom locations) = (.ok (), room) →
      ∀ release taken, (room.perform (createMetadata locations.metadata release)).1 ≠
        .error (.metadataExists taken)) ∧
    (∀ settings answer taken, (world.perform (run locations settings answer)).1 ≠
      .error (.stamp (.metadataExists taken))) ∧
    (world.files.NamesDirectory world.directory locations.metadata →
      ∃ cause, world.perform (makeRoom locations) =
        (.error (.metadata locations.metadata cause), world)) := by
  refine ⟨fun room made release taken => ?_, fun settings answer taken => ?_, fun names => ?_⟩
  · rcases makeRoom_cases world locations with ⟨cause, failed⟩ | ⟨other, done, missing, _⟩
    · rw [failed] at made
      cases made
    · rw [done] at made
      cases made
      exact createMetadata_ne_exists missing release taken
  · rcases ended : world.perform (Dialogue.hold answer (Dialogue.release settings)) with
      ⟨failure | release, agreed⟩
    · rw [run_of_dialogue_error ended]
      simp
    · rw [run_of_dialogue_ok ended, World.perform_adapt]
      have free := renew_ne_exists locations release
        { agreed with printed := agreed.printed ++ announcement release } taken
      generalize World.perform _ (renew locations release) = done at free
      obtain ⟨failure | report, after⟩ := done
      · simpa using free
      · simp
  · obtain ⟨cause, failed, other⟩ := FileSystem.remove_of_namesDirectory names
    exact ⟨cause, makeRoom_of_failed failed other⟩

/-- The metadata path leads through a link to a link that leads nowhere; another one names a
directory in a directory that may not be searched. -/
theorem metadata_never_in_the_way_of_links :
    let directory := Path.ofString "build"
    let files := ((((FileSystem.empty.set [directory.bytes] (.directory .full)).set
      [(Path.ofString "version").bytes, directory.bytes] (.link (.ofString "nowhere"))).set
      [(Path.ofString "now").bytes] (.link directory)).set
      [(Path.ofString "shut").bytes] (.directory .none)).set
      [(Path.ofString "inner").bytes, (Path.ofString "shut").bytes] (.directory .full)
    let locations : Locations :=
      { metadata := .ofString "now/version"
        header := .ofString "app.h"
        primaryResource := .ofString "app.rc"
        updaterResource := .ofString "app.rc" }
    let shut : Locations := { locations with metadata := .ofString "shut/inner" }
    let release : Release := ⟨⟨"1", "2", "3", "45"⟩, "0010020345"⟩
    let world : World := { files, directory := [], answers := ["1", "2", "3", "45"].map .ok }
    (∃ room, world.perform (makeRoom locations) = (.ok (), room) ∧
      (room.perform (createMetadata locations.metadata release)).1 ≠
        .error (.metadataExists locations.metadata)) ∧
    (world.perform (run locations {} World.answer)).1 ≠
      .error (.stamp (.metadataExists locations.metadata)) ∧
    files.NamesDirectory [] shut.metadata ∧
    ∃ cause, world.perform (makeRoom shut) = (.error (.metadata shut.metadata cause), world) := by
  intro directory files locations shut release world
  have names : files.NamesDirectory [] shut.metadata :=
    ⟨.entry [(Path.ofString "shut").bytes] (Path.ofString "inner").bytes false, _,
      by decide +kernel, rfl, .full, rfl⟩
  have made : (world.perform (makeRoom locations)).1 = .ok () := by decide +kernel
  obtain ⟨free, never, _⟩ := metadata_never_in_the_way locations world
  rcases ended : world.perform (makeRoom locations) with ⟨outcome, room⟩
  rw [ended] at made
  subst made
  exact ⟨⟨room, rfl, free room ended release locations.metadata⟩,
    never {} World.answer locations.metadata, names,
    (metadata_never_in_the_way shut world).2.2 names⟩

end VersionStamp.Stamping
