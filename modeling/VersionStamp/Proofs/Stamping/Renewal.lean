import VersionStamp.Proofs.Artifact.ReleaseLines
import VersionStamp.Proofs.Stamping.Contents
import VersionStamp.Proofs.Stamping.Release

/-! Stamping one release after another.

Whatever a run has left, complete or broken off, the next run overwrites. It removes the
metadata file that was created, and to every text that was stamped it applies lines with
the same tags, up to the same target.
-/

namespace VersionStamp.Stamping

open VersionStamp.Artifact VersionStamp.Files VersionStamp.Release

variable {earlier later : Release} {locate : SourceFile → Path}

/-- Makes room for a metadata file and stamps a release. -/
def renew (locations : Locations) (release : Release) :
    ExceptT StampFailure Simulation Report := do
  makeRoom locations
  stampRelease locations release

theorem run_eq_renew (locations : Locations) (settings : BuildNumberSettings)
    (answer : Part → ExceptT PromptFailure Simulation String) :
    run locations settings answer = (do
      let release ← (Dialogue.hold answer (Dialogue.release settings)).adapt RunFailure.dialogue
      announce release
      (renew locations release).adapt RunFailure.stamp) := by
  simp only [run, renew, World.adapt_bind]

theorem followsFiles_makeRoom (locations : Locations) :
    World.FollowsFiles (makeRoom locations : ExceptT _ Simulation _) := by
  refine World.FollowsFiles.bind ?_ fun _ => .pure _
  refine (World.FollowsFiles.change _).outcome.bind fun removal => ?_
  exact afterRemoval World.FollowsFiles
    (fun _ _ _ => (World.FollowsFiles.log _ _ _).bind fun _ => .pure _) (.pure _)
    (fun _ => .throw _) removal

theorem followsFiles_renew (locations : Locations) (release : Release) :
    World.FollowsFiles (renew locations release) :=
  (followsFiles_makeRoom locations).bind fun _ => followsFiles_stampRelease locations release

theorem linesAt_targets (files : FileSystem) (here : Location) (locate : SourceFile → Path)
    (release : Release) (index : Nat) (location : Location) :
    linesAt files here ((targets locate release).take index) location =
      ((table.take index).filter fun row => files.leads here (locate row.1) location).map
        fun row => { tag := row.2.1, value := row.2.2.render release } := by
  simp only [linesAt, targets, ← List.map_take, List.filter_map, List.map_map]
  rfl

theorem tags_linesAt (files : FileSystem) (here : Location) (locate : SourceFile → Path)
    (earlier later : Release) (index : Nat) (location : Location) :
    (linesAt files here ((targets locate earlier).take index) location).map (·.tag) =
      (linesAt files here ((targets locate later).take index) location).map (·.tag) := by
  simp only [linesAt_targets, List.map_map]
  rfl

theorem path_targets (locate : SourceFile → Path) (earlier later : Release) (index : Nat) :
    ((targets locate earlier).take index).map (·.path) =
      ((targets locate later).take index).map (·.path) := by
  simp [targets, ← List.map_take]

/-- The next run settles what any number of targets have made of the texts, once the
metadata file is replaced. -/
theorem settles_of_stamped (numericEarlier : earlier.IsNumeric) (numericLater : later.IsNumeric)
    {files left : FileSystem} {here location : Location} {index : Nat} {text : String}
    (stamped : ∀ other : Location, left.stored? other =
      ((files.set location (.file text.toUTF8 .full)).stored? other).map (stampEntry
        (linesAt (files.set location (.file text.toUTF8 .full)) here
          ((targets locate earlier).take index) other)))
    (otherText : String) :
    Settles (linesAt (files.set location (.file otherText.toUTF8 .full)) here
        ((targets locate later).take index))
      (files.set location (.file otherText.toUTF8 .full))
      ((left.erase location).set location (.file otherText.toUTF8 .full)) := by
  intro other
  rw [FileSystem.stored?_set, FileSystem.stored?_set]
  by_cases same : location = other
  · rw [if_pos same, if_pos same]
    exact .inl rfl
  · -- elsewhere one side has what the first run found there, the other what it left
    rw [if_neg same, if_neg same, FileSystem.stored?_erase, if_neg same, stamped other,
      FileSystem.stored?_set, if_neg same,
      linesAt_alike ((FileSystem.Alike.refl files).set_text location text otherText .full)]
    rcases stampEntry_cases (linesAt (files.set location (.file otherText.toUTF8 .full)) here
        ((targets locate earlier).take index) other) (files.stored? other) with
      kept | ⟨old, access, found, left⟩
    · exact .inl kept.symm
    · have absorbed := stampEach_stampEach
        (separate_linesAt numericEarlier (List.take_sublist index _) _ here other)
        (separate_linesAt numericLater (List.take_sublist index _) _ here other)
        (tags_linesAt (files.set location (.file otherText.toUTF8 .full)) here locate earlier
          later index other) old
      exact .inr ⟨old, _, access, found, left, absorbed.symm⟩

theorem stampTargets_ok_writesComplete {world after : World} {targets : List Target}
    {counts : List Nat} (complete : world.WritesComplete)
    (done : world.perform (stampTargets targets) = (.ok counts, after)) :
    after.WritesComplete := by
  intro count
  rw [stampTargets_ok_interruptions done]
  exact complete _

/-- Where writes complete, what stamping leaves is what stamping the first targets leaves. -/
theorem exists_stampTargets_take {world : World} (complete : world.WritesComplete)
    (targets : List Target) :
    ∃ index counts, world.perform (stampTargets (targets.take index)) =
      (.ok counts, (world.perform (stampTargets targets)).2) := by
  rcases outcome : world.perform (stampTargets targets) with ⟨failure | counts, after⟩
  · obtain ⟨index, target, counts, middle, _, before, failed⟩ := stampTargets_error outcome
    obtain ⟨_, _, _, same⟩ := stampTarget_error failed
    obtain rfl := same (stampTargets_ok_writesComplete complete before 0)
    exact ⟨index, counts, before⟩
  · exact ⟨targets.length, counts, by rw [List.take_length, outcome]⟩

theorem stampTargets_sameEnd {world other stopped : World} {targets : List Target}
    {counts : List Nat} {index : Nat}
    (settles : Settles (linesAt world.files world.directory (targets.take index))
      world.files other.files)
    (here : world.directory = other.directory)
    (interruptions : world.interruptions = other.interruptions)
    (done : world.perform (stampTargets (targets.take index)) = (.ok counts, stopped)) :
    World.SameEnd (world.perform (stampTargets targets))
      (other.perform (stampTargets targets)) := by
  -- the first targets leave the same files, and the others start from there
  obtain ⟨otherStopped, otherDone, same⟩ := stampTargets_settles settles here interruptions done
  rw [← List.take_append_drop index targets, perform_stampTargets_append,
    perform_stampTargets_append, done, otherDone]
  have rest := followsFiles_stampTargets (targets.drop index) stopped otherStopped same
  simp only
  generalize stopped.perform (stampTargets (targets.drop index)) = one at rest ⊢
  generalize otherStopped.perform (stampTargets (targets.drop index)) = two at rest ⊢
  obtain ⟨outcome, left⟩ := one
  obtain ⟨otherOutcome, right⟩ := two
  obtain rfl : outcome = otherOutcome := rest.result
  cases outcome with
  | error failure => exact ⟨rfl, rest.world⟩
  | ok more => exact ⟨rfl, rest.world⟩

/-- Stamping another release ends alike from where a first one began and from where it
stopped, once the metadata is replaced. -/
theorem stampTargets_restart (numericEarlier : earlier.IsNumeric) (numericLater : later.IsNumeric)
    {first stopped fresh restarted : World} {files : FileSystem} {location : Location}
    {text otherText : String} {index : Nat} {counts : List Nat}
    (done : first.perform (stampTargets ((targets locate earlier).take index)) =
      (.ok counts, stopped))
    (firstFiles : first.files = files.set location (.file text.toUTF8 .full))
    (freshFiles : fresh.files = files.set location (.file otherText.toUTF8 .full))
    (restartedFiles : restarted.files =
      (stopped.files.erase location).set location (.file otherText.toUTF8 .full))
    (freshHere : first.directory = fresh.directory)
    (restartedHere : restarted.directory = first.directory)
    (freshWrites : first.interruptions = fresh.interruptions)
    (restartedWrites : restarted.interruptions = first.interruptions) :
    World.SameEnd (restarted.perform (stampTargets (targets locate later)))
      (fresh.perform (stampTargets (targets locate later))) := by
  have likewise : first.files.Alike fresh.files := by
    rw [firstFiles, freshFiles]
    exact (FileSystem.Alike.refl files).set_text location text otherText .full
  obtain ⟨_, _, again⟩ := exists_stampTargets_ok likewise freshHere freshWrites
    (path_targets locate earlier later index) done
  have stamped := stored?_stampTargets done
  rw [firstFiles] at stamped
  have settles := settles_of_stamped numericEarlier numericLater stamped otherText
  rw [← freshFiles, ← restartedFiles, freshHere] at settles
  exact (stampTargets_sameEnd settles (freshHere.symm.trans restartedHere.symm)
    (freshWrites.symm.trans restartedWrites.symm) again).symm

theorem renew_after_stampRelease (numericEarlier : earlier.IsNumeric)
    (numericLater : later.IsNumeric) {room : World} {locations : Locations}
    (complete : room.WritesComplete)
    (missing : room.files.remove room.directory locations.metadata = .error .notFound) :
    World.SameEnd
      ((room.perform (stampRelease locations earlier)).2.perform (renew locations later))
      (room.perform (stampRelease locations later)) := by
  cases created : room.files.creatable room.directory locations.metadata with
  | error cause =>
      -- the earlier run has left the world as it was
      have left := (stampRelease_of_not_created earlier created).world
      refine (followsFiles_renew locations later _ room left).trans ?_
      rw [renew, World.perform_bind, makeRoom_of_missing missing]
      exact .refl _
  | ok location =>
      have start (text : ByteArray) : (room.written location text).WritesComplete :=
        fun count => complete (count + 1)
      obtain ⟨index, counts, done⟩ := exists_stampTargets_take
        (start (MetadataText.ofRelease earlier).toUTF8) (targets locations.ofFile earlier)
      have left : (room.perform (stampRelease locations earlier)).2.SameFiles _ :=
        stampRelease_left created (complete 0)
      generalize (World.perform (room.written location (MetadataText.ofRelease earlier).toUTF8)
        (stampTargets (targets locations.ofFile earlier))).2 = stopped at done left
      have still := stampTargets_ok_writesComplete (start _) done
      obtain ⟨here, alike⟩ := stampTargets_ok_alike done
      -- the later run removes the metadata file, and creates it where the earlier one did
      obtain ⟨removed, again⟩ := FileSystem.create_after_remove created alike
      rw [← show stopped.directory = room.directory from here] at removed again
      obtain ⟨cleared, made, clearedFiles, clearedHere, clearedWrites⟩ :=
        makeRoom_of_removed removed
      rw [← clearedFiles, ← clearedHere] at again
      have clear : cleared.WritesComplete := fun count => by rw [clearedWrites]; exact still count
      refine (followsFiles_renew locations later _ stopped left).trans ?_
      rw [renew, World.perform_bind, made]
      refine (stampRelease_of_created again (clear 0)).trans
        (.trans (stampAll_of_sameEnd ?_) (stampRelease_of_created created (complete 0)).symm)
      exact stampTargets_restart numericEarlier numericLater done rfl rfl (by
          rw [World.files_written, clearedFiles]) rfl (clearedHere.trans here) rfl
        (clear.later.trans (clear.interruptions_eq (start _)))

/-- A run absorbs every earlier run of whichever release, whether it was complete or
stopped at any point: it ends with the same result and the same files as it would have
without that run. -/
theorem renew_after_renew (numericEarlier : earlier.IsNumeric) (numericLater : later.IsNumeric)
    (locations : Locations) {world : World} (complete : world.WritesComplete) :
    World.SameEnd
      ((world.perform (renew locations earlier)).2.perform (renew locations later))
      (world.perform (renew locations later)) := by
  rcases makeRoom_cases world locations with ⟨failure, failed⟩ | ⟨room, made, missing, writes⟩
  · have left : (world.perform (renew locations earlier)).2 = world := by
      rw [renew, World.perform_bind, failed]
    rw [left]
    exact .refl _
  · have start (release : Release) : world.perform (renew locations release) =
        room.perform (stampRelease locations release) := by
      rw [renew, World.perform_bind, made]
    have roomComplete : room.WritesComplete := fun count => by rw [writes]; exact complete count
    rw [start, start]
    exact renew_after_stampRelease numericEarlier numericLater roomComplete missing

/-- A run that stopped where the updater resource is missing, after it had stamped a file
that two paths reach. -/
theorem renew_after_stopped_renew :
    let header := Path.ofString "app.h"
    let files := (FileSystem.empty.set [header.bytes]
        (.file "constexpr auto AppVersion = 9;\r\n FILEVERSION 9".toUTF8 .full)).set
      [(Path.ofString "app.rc").bytes] (.link header)
    let locations : Locations :=
      { metadata := .ofString "version"
        header
        primaryResource := .ofString "app.rc"
        updaterResource := .ofString "updater.rc" }
    let earlier : Release := ⟨⟨"1", "2", "3", "45"⟩, "0010020345"⟩
    let later : Release := ⟨⟨"1", "2", "4", "0"⟩, "0010020400"⟩
    let world : World := { files, directory := [] }
    earlier.IsNumeric ∧ later.IsNumeric ∧ world.WritesComplete ∧ ∃ stopped,
      world.perform (renew locations earlier) =
        (.error (.readTarget (.ofString "updater.rc") .notFound), stopped) ∧
      World.SameEnd (stopped.perform (renew locations later))
        (world.perform (renew locations later)) := by
  intro header files locations earlier later world
  have numericEarlier : earlier.IsNumeric := by decide +kernel
  have numericLater : later.IsNumeric := by decide +kernel
  have complete : world.WritesComplete := fun _ => rfl
  have failed : (world.perform (renew locations earlier)).1 =
      .error (.readTarget (.ofString "updater.rc") .notFound) := by
    decide +kernel
  have absorbed := renew_after_renew numericEarlier numericLater locations complete
  rcases ended : world.perform (renew locations earlier) with ⟨outcome, stopped⟩
  rw [ended] at failed absorbed
  subst failed
  exact ⟨numericEarlier, numericLater, complete, stopped, rfl, absorbed⟩

end VersionStamp.Stamping
