import VersionStamp.Proofs.Files.Occupancy
import VersionStamp.Proofs.Stamping.Contents
import VersionStamp.Proofs.Stamping.Release

/-! What a run leaves that has failed.

A run that cannot create the metadata file changes nothing. One that stops at a target
leaves the metadata file and the targets before it, as if it had been asked for no more. Only
a write that breaks off leaves a part of a text, in the one file that was opened for it.
-/

namespace VersionStamp.Stamping

open VersionStamp.Artifact VersionStamp.Files

variable {world after : World} {locations : Locations} {release : Release}
  {failure : StampFailure}

/-- A run that has stopped at the target of an index, with the metadata file at a location
where nothing was: the worlds before it, between the targets that were stamped and this one,
and after it. -/
structure StoppedAt (index : Nat) (target : Target) (created : Location)
    (locations : Locations) (release : Release) (failure : StampFailure)
    (before between after : World) : Prop where
  inTable : index < 10
  inOrder : (targets locations.ofFile release)[index]? = some target
  vacant : before.files.stored? created = none
  creation : before.files.creatable before.directory locations.metadata = .ok created
  whole : before.interruptions 0 = none
  /-- With the metadata file in place, the targets before this one were stamped in order. -/
  stamped : ∃ counts, World.perform
      (before.written created (MetadataText.ofRelease release).toUTF8)
      (stampTargets ((targets locations.ofFile release).take index)) = (.ok counts, between)
  /-- Every file has the lines of the targets before this one that lead to it, and nothing
  else has changed. -/
  changed : ∀ location, between.files.stored? location =
    ((before.files.set created
      (.file (MetadataText.ofRelease release).toUTF8 .full)).stored? location).map
    (stampEntry (linesAt between.files before.directory
      ((targets locations.ofFile release).take index) location))
  /-- In the world that these left this one fails. Its file is as they left it, or has a part
  of its new text. -/
  fails : ∃ last, between.perform (stampTarget target) = (.error failure, last) ∧
    last.SameFiles after
  stops : Stops before.directory between.files (before.interruptions (index + 1)) target
    failure after.files
  kept : before.interruptions (index + 1) = none → after.SameFiles between

theorem exists_stoppedAt {created : Location} {last : World}
    (creation : world.files.creatable world.directory locations.metadata = .ok created)
    (whole : world.interruptions 0 = none)
    (failed : World.perform (world.written created (MetadataText.ofRelease release).toUTF8)
      (stampTargets (targets locations.ofFile release)) = (.error failure, last))
    (same : after.SameFiles last) :
    ∃ index target between,
      StoppedAt index target created locations release failure world between after := by
  obtain ⟨index, target, counts, between, there, done, fails⟩ := stampTargets_error failed
  obtain ⟨stops, _, _, kept⟩ := stampTarget_error fails
  obtain ⟨inRange, _⟩ := List.getElem?_eq_some_iff.mp there
  rw [length_targets] at inRange
  -- one write has made the metadata file, and one each of the targets before this one
  have next : between.interruptions 0 = world.interruptions (index + 1) := by
    rw [interruptions_zero_of_stampTargets done, List.length_take, length_targets,
      Nat.min_eq_left (Nat.le_of_lt inRange)]
    rfl
  obtain ⟨here, alike⟩ := stampTargets_ok_alike done
  rw [here, next, ← same.files] at stops
  rw [next] at kept
  refine ⟨index, target, between, inRange, there,
    FileSystem.vacant_of_creatable creation, creation, whole, ⟨counts, done⟩,
    fun location => ?_, ⟨last, fails, same.symm⟩, stops, fun next => ?_⟩
  · rw [linesAt_alike alike]
    exact stored?_stampTargets done location
  · exact kept next ▸ same

/-- A failed run leaves exactly what it had done. It has done nothing if the metadata file
could not be created, and otherwise it has stamped the targets up to the one that its failure
names. Where the write into an opened file broke off, this file has a part of the text that
was meant for it, and this is all that is left besides. Where anything is at the metadata
path, a run fails for this reason, unless the path is too long. -/
theorem stampRelease_interrupted (world : World) (locations : Locations) (release : Release) :
    (∀ failure after, world.perform (stampRelease locations release) = (.error failure, after) →
      match failure with
      | .metadataExists path => path = locations.metadata ∧ after.SameFiles world
      | .metadata path cause => path = locations.metadata ∧ (after.SameFiles world ∨
          BreaksOff path release world (.metadata path cause) after.files ∧
            after.directory = world.directory)
      | .readTarget path _ | .writeTarget path _ => ∃ index target created between,
          target.path = path ∧
            StoppedAt index target created locations release failure world between after) ∧
    (locations.metadata.endsInSlash = false →
      world.files.IsOccupied world.directory locations.metadata →
      ∃ after, world.perform (stampRelease locations release) =
        (.error (.metadataExists locations.metadata), after) ∧ after.SameFiles world) ∧
    (world.files.Sits world.directory locations.metadata →
      ∃ after, world.perform (stampRelease locations release) =
        (.error (if locations.metadata.bytes.length < pathLimit
            then .metadataExists locations.metadata
            else .metadata locations.metadata .nameTooLong), after) ∧
        after.SameFiles world) := by
  refine ⟨fun failure after failed => ?_, fun unslashed occupied => ?_, fun sits => ?_⟩
  · rcases stampRelease_error failed with ⟨cause, _, rfl, same⟩ |
      ⟨created, creation, ⟨interruption, breaks, rfl, same⟩ | ⟨whole, last, stopped, same⟩⟩
    · cases cause <;> first | exact ⟨rfl, same⟩ | exact ⟨rfl, .inl same⟩
    · have vacant := FileSystem.vacant_of_creatable creation
      exact ⟨rfl, .inr ⟨same.files ▸ .inFile vacant creation breaks, same.directory⟩⟩
    · obtain ⟨index, target, between, stoppedAt⟩ :=
        exists_stoppedAt creation whole stopped same
      obtain ⟨cause, rfl | rfl⟩ := stoppedAt.stops.path_eq
      · exact ⟨index, target, created, between, rfl, stoppedAt⟩
      · exact ⟨index, target, created, between, rfl, stoppedAt⟩
  · exact (stampRelease_of_not_created release
      (FileSystem.creatable_of_occupied unslashed occupied)).exists_eq
  · obtain ⟨after, failed, same⟩ :=
      (stampRelease_of_not_created release (FileSystem.creatable_of_sits sits)).exists_eq
    refine ⟨after, ?_, same⟩
    rw [failed]
    split <;> rfl

/-- The resource that comes third is no text; another run breaks off in the header. Where the
metadata path is a link that leads nowhere, nothing is done. -/
theorem stampRelease_interrupted_by_resource :
    let header := Path.ofString "app.h"
    let resource := Path.ofString "app.rc"
    let files := ((FileSystem.empty.set [header.bytes]
        (.file "constexpr auto AppVersion = 9;".toUTF8 .full)).set
      [resource.bytes] (.file ⟨#[255]⟩ .full)).set [(Path.ofString "old").bytes]
        (.link (.ofString "nowhere"))
    let locations : Locations :=
      { metadata := .ofString "version"
        header
        primaryResource := resource
        updaterResource := resource }
    let occupied : Locations := { locations with metadata := .ofString "old" }
    let release : Release := ⟨⟨"1", "2", "3", "45"⟩, "0010020345"⟩
    let full : FileFailure := .other "No space left on device (os error 28)"
    let world : World := { files, directory := [] }
    let short : World :=
      { world with interruptions := fun count => if count = 1 then some ⟨5, full⟩ else none }
    (∃ after, world.perform (stampRelease locations release) =
        (.error (.readTarget resource .invalidText), after) ∧
      ∃ index target created between, target.path = resource ∧
        StoppedAt index target created locations release (.readTarget resource .invalidText)
          world between after) ∧
    (∃ after, short.perform (stampRelease locations release) =
        (.error (.writeTarget header full), after) ∧
      ∃ index target created between, target.path = header ∧
        StoppedAt index target created locations release (.writeTarget header full)
          short between after) ∧
    (occupied.metadata.endsInSlash = false ∧ files.IsOccupied [] occupied.metadata ∧
      ∃ after, world.perform (stampRelease occupied release) =
        (.error (.metadataExists occupied.metadata), after) ∧ after.SameFiles world) ∧
    files.Sits [] occupied.metadata ∧
    ∃ after, world.perform (stampRelease occupied release) =
      (.error (if occupied.metadata.bytes.length < pathLimit
          then .metadataExists occupied.metadata
          else .metadata occupied.metadata .nameTooLong), after) ∧
      after.SameFiles world := by
  intro header resource files locations occupied release full world short
  have taken : files.IsOccupied [] occupied.metadata :=
    .inr ⟨[], occupied.metadata.bytes, false, .link (.ofString "nowhere"), by decide +kernel, rfl⟩
  have unslashed : occupied.metadata.endsInSlash = false := by decide +kernel
  have sits : files.Sits [] occupied.metadata := by
    have joined : Path.join ⟨[]⟩ ⟨occupied.metadata.bytes⟩ = occupied.metadata := by
      decide +kernel
    have searchable : Access.full ≠ .none := by decide
    rw [← joined]
    exact .inside (by decide +kernel) (.inl ⟨rfl, rfl⟩) rfl searchable rfl
  have failed : (world.perform (stampRelease locations release)).1 =
      .error (.readTarget resource .invalidText) := by
    decide +kernel
  have broken : (short.perform (stampRelease locations release)).1 =
      .error (.writeTarget header full) := by
    decide +kernel
  rcases ended : world.perform (stampRelease locations release) with ⟨outcome, after⟩
  rcases cut : short.perform (stampRelease locations release) with ⟨cutOutcome, left⟩
  rw [ended] at failed
  rw [cut] at broken
  subst failed broken
  exact ⟨⟨after, rfl, (stampRelease_interrupted world locations release).1 _ after ended⟩,
    ⟨left, rfl, (stampRelease_interrupted short locations release).1 _ left cut⟩,
    ⟨unslashed, taken, (stampRelease_interrupted world occupied release).2.1 unslashed taken⟩,
    sits, (stampRelease_interrupted world occupied release).2.2 sits⟩

/-- The write of the metadata breaks off, or the one of the header, whose old text is lost. At
the end of very many slashes the header is in the way of the metadata file, but the path is
too long for this to be found. -/
theorem stampRelease_leaves_part :
    let header := Path.ofString "app.h"
    let files := FileSystem.empty.set [header.bytes]
      (.file "constexpr auto AppVersion = 9;".toUTF8 .full)
    let locations : Locations :=
      { metadata := .ofString "version"
        header
        primaryResource := header
        updaterResource := header }
    let distant := Path.join ⟨List.replicate 4095 Path.slash⟩ header
    let remote : Locations := { locations with metadata := distant }
    let release : Release := ⟨⟨"1", "2", "3", "45"⟩, "0010020345"⟩
    let full : FileFailure := .other "No space left on device (os error 28)"
    let broken (index : Nat) : World :=
      { files
        directory := []
        interruptions := fun count => if count = index then some ⟨5, full⟩ else none }
    files.read [] locations.metadata = .error .notFound ∧
    (∃ after, (broken 0).perform (stampRelease locations release) =
        (.error (.metadata locations.metadata full), after) ∧
      after.files.read [] locations.metadata = .ok "AppVe".toUTF8) ∧
    files.read [] header = .ok "constexpr auto AppVersion = 9;".toUTF8 ∧
    (∃ after, (broken 1).perform (stampRelease locations release) =
        (.error (.writeTarget header full), after) ∧
      after.files.read [] header = .ok "const".toUTF8) ∧
    files.Sits [] distant ∧ distant.endsInSlash = false ∧
    ∃ after, (broken 0).perform (stampRelease remote release) =
      (.error (.metadata distant .nameTooLong), after) := by
  intro header files locations distant remote release full broken
  have first : ((broken 0).perform (stampRelease locations release)).1 =
      .error (.metadata locations.metadata full) := by
    decide +kernel
  have second : ((broken 1).perform (stampRelease locations release)).1 =
      .error (.writeTarget header full) := by
    decide +kernel
  have ordinary : FileSystem.IsOrdinary header.bytes := by decide +kernel
  have sits : files.Sits [] distant :=
    FileSystem.sits_behind_slashes (by decide) (by decide) ordinary rfl
  have unslashed : distant.endsInSlash = false := FileSystem.endsInSlash_join _ ordinary
  have long : ¬ distant.bytes.length < pathLimit := by
    have spelled := FileSystem.length_behind_slashes 4095 ordinary
    have name : header.bytes.length = 5 := by decide +kernel
    rw [name] at spelled
    exact Nat.not_lt.mpr (Nat.le_trans (by decide) spelled)
  -- from here on no step need look at the thousands of slashes
  clear_value distant
  have unfound : (broken 0).files.creatable (broken 0).directory remote.metadata =
      .error .nameTooLong := by
    rw [FileSystem.creatable_of_sits sits, if_neg long]
  obtain ⟨after, failed, _⟩ := (stampRelease_of_not_created release unfound).exists_eq
  exact ⟨by decide +kernel, ⟨_, Prod.ext first rfl, by decide +kernel⟩, by decide +kernel,
    ⟨_, Prod.ext second rfl, by decide +kernel⟩, sits, unslashed, after, failed⟩

end VersionStamp.Stamping
