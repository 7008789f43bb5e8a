import VersionStamp.Proofs.Files.Vacancy
import VersionStamp.Proofs.Stamping.Targets
import VersionStamp.Stamping.Run

/-! What a run does to the metadata file.

Room for it is made where its path leads. It is created and written or the run stops, and
from then on the run is the stamping of the targets.
-/

namespace VersionStamp.Stamping

open VersionStamp.Artifact VersionStamp.Files VersionStamp.Log

variable {world after : World} {locations : Locations} {release : Release}

/-- How a run that cannot create the metadata file reports it. -/
def creationFailure (path : Path) : FileFailure → StampFailure
  | .alreadyExists => .metadataExists path
  | cause => .metadata path cause

def creationRecord (path : Path) : Record where
  level := .info
  origin := .metadata
  text := "Wrote metadata file " ++ path.display

/-- A failure to write into the metadata file that was created where nothing was, and the files
that it leaves: a part of the text is there. -/
inductive BreaksOff (path : Path) (release : Release) (before : World) :
    StampFailure → FileSystem → Prop where
  | inFile {location : Location} {interruption : Interruption}
      (vacant : before.files.stored? location = none)
      (created : before.files.creatable before.directory path = .ok location)
      (breaks : before.interruptions 0 = some interruption) :
      BreaksOff path release before (.metadata path interruption.cause)
        (before.files.set location
          (.file (interruption.part (MetadataText.ofRelease release).toUTF8) .full))

theorem perform_createMetadata (world : World) (path : Path) (release : Release) :
    world.perform (createMetadata path release) =
      match world.files.creatable world.directory path with
      | .error cause => (.error (creationFailure path cause), world)
      | .ok location =>
          let text := (MetadataText.ofRelease release).toUTF8
          match world.interruptions 0 with
          | some interruption => (.error (.metadata path interruption.cause),
              world.written location (interruption.part text))
          | none => (.ok (), { world.written location text with
              records := world.records ++ [creationRecord path] }) := by
  rw [createMetadata, World.perform_bind, World.perform_attempt, World.perform_createFile]
  cases world.files.creatable world.directory path with
  | error cause => cases cause <;> rfl
  | ok location =>
      simp only [mapError_ok, World.perform_bind, World.perform_attempt, World.perform_writeAll]
      rw [World.perform_fill_opened, World.perform_fill]
      cases world.interruptions 0 with
      | some interruption => rfl
      | none => rfl

/-- The metadata file cannot be created, or the write into it breaks off, or it is there as a
whole. -/
theorem createMetadata_cases (world : World) (path : Path) (release : Release) :
    (∃ cause, world.files.creatable world.directory path = .error cause ∧
      world.perform (createMetadata path release) =
        (.error (creationFailure path cause), world)) ∨
    ∃ location, world.files.creatable world.directory path = .ok location ∧
      ((∃ interruption, world.interruptions 0 = some interruption ∧
        world.perform (createMetadata path release) =
          (.error (.metadata path interruption.cause), world.written location
            (interruption.part (MetadataText.ofRelease release).toUTF8))) ∨
      world.interruptions 0 = none ∧
        world.perform (createMetadata path release) =
          (.ok (), { world.written location (MetadataText.ofRelease release).toUTF8 with
            records := world.records ++ [creationRecord path] })) := by
  rw [perform_createMetadata]
  cases world.files.creatable world.directory path with
  | error cause => exact .inl ⟨cause, rfl, rfl⟩
  | ok location =>
      cases world.interruptions 0 with
      | some interruption => exact .inr ⟨location, rfl, .inl ⟨interruption, rfl, rfl⟩⟩
      | none => exact .inr ⟨location, rfl, .inr ⟨rfl, rfl⟩⟩

theorem perform_discardMetadata (world : World) (path : Path) :
    world.perform (discardMetadata path) =
      match world.files.remove world.directory path with
      | .ok files => (.ok true, { world with
          files
          records := world.records ++ [
            { level := .info
              origin := .metadata
              text := "Removed stale metadata file " ++ path.display }] })
      | .error .notFound => (.ok false, world)
      | .error cause => (.error (.metadata path cause), world) := by
  rw [discardMetadata, World.perform_bind, World.perform_outcome, World.perform_removeFile]
  cases world.files.remove world.directory path with
  | ok files => rfl
  | error cause => cases cause <;> rfl

/-- What is done about the outcome of a removal is to log it, to pass over it or to fail. -/
theorem afterRemoval (property : ExceptT StampFailure Simulation Bool → Prop) {path : Path}
    (logged : ∀ level origin text, property (do
      Host.log level origin text
      return true))
    (passed : property (pure false)) (failed : ∀ failure, property (throw failure))
    (removal : Except FileFailure Unit) :
    property (match removal with
      | .ok () => do
          Host.log .info .metadata ("Removed stale metadata file " ++ path.display)
          return true
      | .error .notFound => return false
      | .error cause => throw (.metadata path cause)) := by
  cases removal with
  | ok removed => exact logged _ _ _
  | error cause =>
      cases cause with
      | notFound => exact passed
      | _ => exact failed _

theorem makeRoom_of_missing
    (missing : world.files.remove world.directory locations.metadata = .error .notFound) :
    world.perform (makeRoom locations : ExceptT _ Simulation _) = (.ok (), world) := by
  rw [makeRoom, World.perform_bind, perform_discardMetadata, missing]
  rfl

theorem makeRoom_of_removed {files : FileSystem}
    (removed : world.files.remove world.directory locations.metadata = .ok files) :
    ∃ after, world.perform (makeRoom locations) = (.ok (), after) ∧
      after.files = files ∧ after.directory = world.directory ∧
      after.interruptions = world.interruptions := by
  rw [makeRoom, World.perform_bind, perform_discardMetadata, removed]
  exact ⟨_, rfl, rfl, rfl, rfl⟩

theorem makeRoom_of_failed {cause : FileFailure}
    (failed : world.files.remove world.directory locations.metadata = .error cause)
    (other : cause ≠ .notFound) :
    world.perform (makeRoom locations) = (.error (.metadata locations.metadata cause), world) := by
  rw [makeRoom, World.perform_bind, perform_discardMetadata, failed]
  cases cause <;> first | rfl | exact absurd rfl other

/-- Either room cannot be made, and nothing has changed, or there is nothing left to
remove. -/
theorem makeRoom_cases (world : World) (locations : Locations) :
    (∃ cause, world.perform (makeRoom locations) =
      (.error (.metadata locations.metadata cause), world)) ∨
    ∃ after, world.perform (makeRoom locations) = (.ok (), after) ∧
      after.files.remove after.directory locations.metadata = .error .notFound ∧
      after.interruptions = world.interruptions := by
  cases removal : world.files.remove world.directory locations.metadata with
  | ok files =>
      obtain ⟨after, done, rfl, here, later⟩ := makeRoom_of_removed removal
      exact .inr ⟨after, done, by rw [here]; exact FileSystem.remove_after_remove removal, later⟩
  | error cause =>
      by_cases missing : cause = .notFound
      · subst missing
        exact .inr ⟨world, makeRoom_of_missing removal, removal, rfl⟩
      · exact .inl ⟨cause, makeRoom_of_failed removal missing⟩

theorem followsFiles_createMetadata (path : Path) (release : Release) :
    World.FollowsFiles (createMetadata path release : ExceptT _ Simulation _) :=
  ((World.FollowsFiles.opening _).adapt _).bind fun _ =>
    ((World.FollowsFiles.fill _ _).adapt _).bind fun _ => .log _ _ _

theorem followsFiles_warnMissed (target : Target) :
    World.FollowsFiles (warnMissed target : ExceptT _ Simulation _) :=
  .log _ _ _

/-- What a run does once the metadata file is there. -/
def stampAll (locations : Locations) (release : Release) :
    ExceptT StampFailure Simulation Report := do
  let targets := targets locations.ofFile release
  let counts ← stampTargets targets
  let report : Report := { metadata := locations.metadata, targets := targets.zip counts }
  report.missed.forM warnMissed
  Host.log .info .stamping
    ("Patched " ++ toString report.targets.length ++ " target(s)")
  return report

theorem stampAll_of_sameEnd {other : World}
    (same : World.SameEnd (world.perform (stampTargets (targets locations.ofFile release)))
      (other.perform (stampTargets (targets locations.ofFile release)))) :
    World.SameEnd (world.perform (stampAll locations release))
      (other.perform (stampAll locations release)) :=
  same.bind fun _ => (World.FollowsFiles.forM followsFiles_warnMissed _).bind fun _ =>
    (World.FollowsFiles.log _ _ _).bind fun _ => .pure _

theorem followsFiles_stampAll (locations : Locations) (release : Release) :
    World.FollowsFiles (stampAll locations release) :=
  fun world other same => stampAll_of_sameEnd (followsFiles_stampTargets _ world other same)

theorem stampAll_sameEnd (world : World) (locations : Locations) (release : Release) :
    World.SameEnd (world.perform (stampAll locations release))
      (match world.perform (stampTargets (targets locations.ofFile release)) with
        | (.error failure, after) => (.error failure, after)
        | (.ok counts, after) => (.ok
            { metadata := locations.metadata
              targets := (targets locations.ofFile release).zip counts }, after)) := by
  rw [stampAll, World.perform_bind]
  rcases world.perform (stampTargets (targets locations.ofFile release)) with
    ⟨failure | counts, after⟩
  · exact .refl _
  · refine ((World.Quiet.forM (fun _ => .log _ _ _) followsFiles_warnMissed _).before
      ((World.FollowsFiles.log _ _ _).bind fun _ => .pure _) after).trans ?_
    exact (World.Quiet.log _ _ _).before (.pure _) after

theorem stampRelease_sameEnd (world : World) (locations : Locations) (release : Release) :
    World.SameEnd (world.perform (stampRelease locations release))
      (world.perform (createMetadata locations.metadata release >>= fun _ =>
        stampAll locations release)) :=
  (World.Quiet.log _ _ _).before
    ((followsFiles_createMetadata _ _).bind fun _ => followsFiles_stampAll _ _) world

theorem followsFiles_stampRelease (locations : Locations) (release : Release) :
    World.FollowsFiles (stampRelease locations release : ExceptT _ Simulation _) :=
  (World.FollowsFiles.log _ _ _).bind fun _ =>
    (followsFiles_createMetadata _ _).bind fun _ => followsFiles_stampAll _ _

theorem stampRelease_of_not_created (release : Release) {cause : FileFailure}
    (failed : world.files.creatable world.directory locations.metadata = .error cause) :
    World.SameEnd (world.perform (stampRelease locations release))
      (.error (creationFailure locations.metadata cause), world) := by
  refine (stampRelease_sameEnd world locations release).trans ?_
  rw [World.perform_bind, perform_createMetadata]
  simp only [failed]
  exact .refl _

section Created

variable {location : Location}
  (created : world.files.creatable world.directory locations.metadata = .ok location)

include created

theorem stampRelease_of_brokenOff {interruption : Interruption}
    (breaks : world.interruptions 0 = some interruption) :
    World.SameEnd (world.perform (stampRelease locations release))
      (.error (.metadata locations.metadata interruption.cause), world.written location
        (interruption.part (MetadataText.ofRelease release).toUTF8)) := by
  refine (stampRelease_sameEnd world locations release).trans ?_
  rw [World.perform_bind, perform_createMetadata]
  simp only [created, breaks]
  exact .refl _

theorem stampRelease_of_created (next : world.interruptions 0 = none) :
    World.SameEnd (world.perform (stampRelease locations release))
      (World.perform (world.written location (MetadataText.ofRelease release).toUTF8)
        (stampAll locations release)) := by
  refine (stampRelease_sameEnd world locations release).trans ?_
  rw [World.perform_bind, perform_createMetadata]
  simp only [created, next]
  exact followsFiles_stampAll locations release _ _ ⟨rfl, rfl, rfl⟩

theorem stampRelease_left (next : world.interruptions 0 = none) :
    (world.perform (stampRelease locations release)).2.SameFiles
      (World.perform (world.written location (MetadataText.ofRelease release).toUTF8)
        (stampTargets (targets locations.ofFile release))).2 := by
  have ended : World.SameEnd (world.perform (stampRelease locations release)) _ :=
    (stampRelease_of_created created next).trans (stampAll_sameEnd _ _ _)
  have left := ended.world
  generalize World.perform (world.written location (MetadataText.ofRelease release).toUTF8)
    (stampTargets (targets locations.ofFile release)) = done at left ⊢
  obtain ⟨failure | counts, after⟩ := done
  · exact left
  · exact left

end Created

/-- A run does not create the metadata file, or breaks off while writing it, or goes on to the
targets. -/
theorem stampRelease_cases (world : World) (locations : Locations) (release : Release) :
    (∃ cause, world.files.creatable world.directory locations.metadata = .error cause ∧
      World.SameEnd (world.perform (stampRelease locations release))
        (.error (creationFailure locations.metadata cause), world)) ∨
    ∃ location, world.files.creatable world.directory locations.metadata = .ok location ∧
      ((∃ interruption, world.interruptions 0 = some interruption ∧
        World.SameEnd (world.perform (stampRelease locations release))
          (.error (.metadata locations.metadata interruption.cause), world.written location
            (interruption.part (MetadataText.ofRelease release).toUTF8))) ∨
      world.interruptions 0 = none ∧
        World.SameEnd (world.perform (stampRelease locations release))
          (match World.perform (world.written location (MetadataText.ofRelease release).toUTF8)
              (stampTargets (targets locations.ofFile release)) with
            | (.error failure, after) => (.error failure, after)
            | (.ok counts, after) => (.ok
                { metadata := locations.metadata
                  targets := (targets locations.ofFile release).zip counts }, after))) := by
  cases created : world.files.creatable world.directory locations.metadata with
  | error cause => exact .inl ⟨cause, rfl, stampRelease_of_not_created release created⟩
  | ok location =>
      refine .inr ⟨location, rfl, ?_⟩
      cases next : world.interruptions 0 with
      | some interruption =>
          exact .inl ⟨interruption, rfl, stampRelease_of_brokenOff created next⟩
      | none =>
          exact .inr ⟨rfl, (stampRelease_of_created created next).trans (stampAll_sameEnd _ _ _)⟩

theorem stampRelease_ok {report : Report}
    (done : world.perform (stampRelease locations release) = (.ok report, after)) :
    ∃ location counts last,
      world.files.creatable world.directory locations.metadata = .ok location ∧
      World.perform (world.written location (MetadataText.ofRelease release).toUTF8)
        (stampTargets (targets locations.ofFile release)) = (.ok counts, last) ∧
      report = { metadata := locations.metadata
                 targets := (targets locations.ofFile release).zip counts } ∧
      after.SameFiles last := by
  rcases stampRelease_cases world locations release with
    ⟨cause, _, ended⟩ | ⟨location, created, ⟨interruption, _, ended⟩ | ⟨_, ended⟩⟩
  · rw [done] at ended
    cases ended.result
  · rw [done] at ended
    cases ended.result
  · rw [done] at ended
    rcases stamped : World.perform (world.written location (MetadataText.ofRelease release).toUTF8)
        (stampTargets (targets locations.ofFile release)) with ⟨failure | counts, last⟩
    · rw [stamped] at ended
      cases ended.result
    · rw [stamped] at ended
      exact ⟨location, counts, last, created, stamped, Except.ok.inj ended.result, ended.world⟩

theorem stampRelease_error {failure : StampFailure}
    (failed : world.perform (stampRelease locations release) = (.error failure, after)) :
    (∃ cause, world.files.creatable world.directory locations.metadata = .error cause ∧
      failure = creationFailure locations.metadata cause ∧ after.SameFiles world) ∨
    ∃ location, world.files.creatable world.directory locations.metadata = .ok location ∧
      ((∃ interruption, world.interruptions 0 = some interruption ∧
        failure = .metadata locations.metadata interruption.cause ∧
        after.SameFiles (world.written location
          (interruption.part (MetadataText.ofRelease release).toUTF8))) ∨
      world.interruptions 0 = none ∧ ∃ last,
        World.perform (world.written location (MetadataText.ofRelease release).toUTF8)
          (stampTargets (targets locations.ofFile release)) = (.error failure, last) ∧
        after.SameFiles last) := by
  rcases stampRelease_cases world locations release with
    ⟨cause, refused, ended⟩ | ⟨location, created, ⟨interruption, breaks, ended⟩ | ⟨next, ended⟩⟩
  · rw [failed] at ended
    exact .inl ⟨cause, refused, Except.error.inj ended.result, ended.world⟩
  · rw [failed] at ended
    exact .inr ⟨location, created,
      .inl ⟨interruption, breaks, Except.error.inj ended.result, ended.world⟩⟩
  · rw [failed] at ended
    rcases stamped : World.perform (world.written location (MetadataText.ofRelease release).toUTF8)
        (stampTargets (targets locations.ofFile release)) with ⟨cause | counts, last⟩
    · rw [stamped] at ended
      obtain rfl := Except.error.inj ended.result
      exact .inr ⟨location, created, .inr ⟨next, last, stamped, ended.world⟩⟩
    · rw [stamped] at ended
      cases ended.result

end VersionStamp.Stamping
