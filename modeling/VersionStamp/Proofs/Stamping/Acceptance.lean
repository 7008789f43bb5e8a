import VersionStamp.Proofs.Dialogue
import VersionStamp.Proofs.Effects
import VersionStamp.Proofs.Stamping.Renewal

/-! Nothing is touched before all answers are accepted.

A dialogue uses up answers and does nothing else. What comes after it changes files and
the log only, so a run either fails in its dialogue, with all else as before, or ends as the
renewal of the files with the release that was agreed on.
-/

namespace VersionStamp

open VersionStamp.Artifact VersionStamp.Files VersionStamp.Release

def Effect.storage : Effect where
  allows before after := ∃ files interruptions records,
    after = { before with files, interruptions, records }
  refl world := ⟨world.files, world.interruptions, world.records, rfl⟩
  trans := by
    rintro before _ _ ⟨_, _, _, rfl⟩ ⟨files, interruptions, records, rfl⟩
    exact ⟨files, interruptions, records, rfl⟩

namespace Stamping

theorem storage_log {ε : Type} (level : Log.Level) (origin : Log.Origin) (text : String) :
    Effect.storage.Bounds (Host.log level origin text : ExceptT ε Simulation Unit) :=
  .log fun world records => ⟨world.files, world.interruptions, records, rfl⟩

theorem storage_change
    (operation : FileSystem → Location → Except FileFailure FileSystem) :
    Effect.storage.Bounds (World.change operation) :=
  .change fun world files _ => ⟨files, world.interruptions, world.records, rfl⟩

theorem storage_opening (locate : FileSystem → Location → Except FileFailure Location) :
    Effect.storage.Bounds (World.opening locate) :=
  .opening fun world location =>
    ⟨(world.opened location).files, world.interruptions, world.records, rfl⟩

theorem storage_fill (location : Location) (content : ByteArray) :
    Effect.storage.Bounds (World.fill location content) :=
  .fill fun world content => ⟨(world.written location content).files,
    world.laterInterruptions, world.records, rfl⟩

theorem storage_makeRoom (locations : Locations) :
    Effect.storage.Bounds (makeRoom locations : ExceptT _ Simulation _) := by
  refine .bind ?_ fun _ => .pure _
  refine .bind (storage_change _).outcome fun removal => ?_
  exact afterRemoval Effect.storage.Bounds
    (fun _ _ _ => (storage_log _ _ _).bind fun _ => .pure _) (.pure _) (fun _ => .throw _) removal

theorem storage_stampTarget (target : Target) :
    Effect.storage.Bounds (stampTarget target : ExceptT _ Simulation _) := by
  refine (Effect.Bounds.readText target.path).adapt _ |>.bind fun content => ?_
  have written : Effect.storage.Bounds (Host.writeFile target.path
      (target.line.stampText content).content : ExceptT _ Simulation _) :=
    (storage_opening _).bind fun _ => storage_fill _ _
  exact (written.adapt _).bind fun _ => (storage_log _ _ _).bind fun _ => .pure _

theorem storage_stampTargets (targets : List Target) :
    Effect.storage.Bounds (stampTargets targets : ExceptT _ Simulation _) := by
  induction targets with
  | nil => exact .pure _
  | cons target others ih =>
      exact (storage_stampTarget target).bind fun _ => ih.bind fun _ => .pure _

theorem storage_createMetadata (path : Path) (release : Release) :
    Effect.storage.Bounds (createMetadata path release : ExceptT _ Simulation _) :=
  ((storage_opening _).adapt _).bind fun _ =>
    ((storage_fill _ _).adapt _).bind fun _ => storage_log _ _ _

theorem storage_renew (locations : Locations) (release : Release) :
    Effect.storage.Bounds (renew locations release) := by
  refine (storage_makeRoom locations).bind fun _ => ?_
  refine (storage_log _ _ _).bind fun _ => ?_
  refine (storage_createMetadata _ _).bind fun _ => ?_
  refine (storage_stampTargets _).bind fun counts => ?_
  refine (Effect.Bounds.forM (fun _ => storage_log _ _ _) _).bind fun _ => ?_
  exact (storage_log _ _ _).bind fun _ => .pure _

/-- A script has answered every question of the scheme with a numeral. -/
structure Accepted (settings : BuildNumberSettings) (exchange : List (Part × String))
    (before after : World) : Prop where
  questions : exchange.map (·.1) = settings.scheme.parts
  valid : ∀ asked ∈ exchange, ∃ text, numeral asked.1 asked.2 = .ok text
  asked : after.asked = before.asked ++ settings.scheme.parts
  answers : before.answers = exchange.map (fun asked => .ok asked.2) ++ after.answers

theorem Accepted.length {settings : BuildNumberSettings} {exchange : List (Part × String)}
    {before after : World} (accepted : Accepted settings exchange before after) :
    exchange.length = if settings.scheme = .prefixed then 5 else 4 := by
  rw [← List.length_map (·.1), accepted.questions]
  cases settings.scheme with
  | zeroPadded | arithmetic | prefixed => rfl

/-- The lines that show a release to the operator. -/
def announcement (release : Release) : String :=
  (release.dottedForm ++ "\n") ++ ("Build number: " ++ release.buildNumber ++ "\n")

theorem perform_announce {ε : Type} (world : World) (release : Release) :
    world.perform (announce release : ExceptT ε Simulation Unit) =
      (.ok (), { world with printed := world.printed ++ announcement release }) := by
  rw [announcement, ← String.append_assoc]
  rfl

variable {locations : Locations} {settings : BuildNumberSettings} {world agreed : World}
  {release : Release}

theorem dialogue_cases (settings : BuildNumberSettings) (world : World) :
    (∃ failure asked answers,
      world.perform (Dialogue.hold World.answer (Dialogue.release settings)) =
        (.error failure, { world with asked, answers })) ∨
    ∃ release exchange after,
      world.perform (Dialogue.hold World.answer (Dialogue.release settings)) =
        (.ok release, after) ∧
      (Dialogue.release settings).Held exchange (.ok release) ∧
      Accepted settings exchange world after ∧
      after = { world with asked := after.asked, answers := after.answers } := by
  rcases Dialogue.hold_cases (Dialogue.release settings) world with
    ⟨exchange, result, rest, held, scripted, ended⟩ | ⟨failure, asked, answers, ended⟩
  · cases result with
    | error failure => exact .inl ⟨_, _, _, ended⟩
    | ok release =>
        obtain ⟨questions, valid⟩ := Dialogue.answered_of_held held
        refine .inr ⟨release, exchange, _, ended, held, ⟨questions, valid, ?_, scripted⟩, rfl⟩
        rw [questions]
  · exact .inl ⟨_, _, _, ended⟩

section Answers

variable {answer : Part → ExceptT PromptFailure Simulation String}

theorem run_of_dialogue_error {failure : DialogueFailure}
    (ended : world.perform (Dialogue.hold answer (Dialogue.release settings)) =
      (.error failure, agreed)) :
    world.perform (run locations settings answer) = (.error (.dialogue failure), agreed) := by
  rw [run_eq_renew, World.perform_bind, World.perform_adapt, ended]
  rfl

theorem run_of_dialogue_ok
    (ended : world.perform (Dialogue.hold answer (Dialogue.release settings)) =
      (.ok release, agreed)) :
    world.perform (run locations settings answer) =
      World.perform { agreed with printed := agreed.printed ++ announcement release }
        ((renew locations release).adapt RunFailure.stamp) := by
  rw [run_eq_renew, World.perform_bind, World.perform_adapt, ended]
  simp only [mapError_ok]
  rw [World.perform_bind, perform_announce]

end Answers

/-- What follows a dialogue that used up answers is the renewal of the files it found. -/
theorem run_of_accepted
    (ended : world.perform (Dialogue.hold World.answer (Dialogue.release settings)) =
      (.ok release, agreed))
    (same : agreed = { world with asked := agreed.asked, answers := agreed.answers }) :
    ∃ after, world.perform (run locations settings World.answer) =
        ((world.perform (renew locations release)).1.mapError .stamp, after) ∧
      after.files = (world.perform (renew locations release)).2.files ∧
      after.printed = world.printed ++ announcement release ∧
      after.asked = agreed.asked ∧ after.answers = agreed.answers := by
  have files : agreed.files = world.files := by rw [same]
  have here : agreed.directory = world.directory := by rw [same]
  have interruptions : agreed.interruptions = world.interruptions := by rw [same]
  have printed : agreed.printed = world.printed := by rw [same]
  have alike := followsFiles_renew locations release
    { agreed with printed := agreed.printed ++ announcement release } world
    ⟨files, here, interruptions⟩
  obtain ⟨_, _, _, left⟩ := storage_renew locations release
    { agreed with printed := agreed.printed ++ announcement release }
  refine ⟨_, ?_, alike.world.files, ?_, ?_, ?_⟩
  · rw [run_of_dialogue_ok ended, World.perform_adapt, alike.result]
  · rw [left, printed]
  · rw [left]
  · rw [left]

/-- A run fails in its dialogue, and then only answers are used up, or every question of
the scheme was answered with a numeral, the release is shown, and the files and the result
are those of the renewal with this release. So all questions were answered where a file
has changed. -/
theorem run_after_answers (locations : Locations) (settings : BuildNumberSettings)
    (world : World) :
    ((∃ failure asked answers,
      world.perform (Dialogue.hold World.answer (Dialogue.release settings)) =
        (.error failure, { world with asked, answers }) ∧
      world.perform (run locations settings World.answer) =
        (.error (.dialogue failure), { world with asked, answers })) ∨
    ∃ release exchange agreed after,
      world.perform (Dialogue.hold World.answer (Dialogue.release settings)) =
        (.ok release, agreed) ∧
      Accepted settings exchange world agreed ∧
      world.perform (run locations settings World.answer) =
        ((world.perform (renew locations release)).1.mapError .stamp, after) ∧
      after.files = (world.perform (renew locations release)).2.files ∧
      after.printed = world.printed ++ announcement release ∧
      after.asked = agreed.asked) ∧
    ((world.perform (run locations settings World.answer)).2.files ≠ world.files →
      ∃ exchange,
        Accepted settings exchange world
          (world.perform (run locations settings World.answer)).2 ∧
        exchange.length = if settings.scheme = .prefixed then 5 else 4) := by
  rcases dialogue_cases settings world with
    ⟨failure, asked, answers, ended⟩ | ⟨release, exchange, agreed, ended, _, accepted, same⟩
  · have done : world.perform (run locations settings World.answer) =
        (.error (.dialogue failure), { world with asked, answers }) :=
      run_of_dialogue_error ended
    refine ⟨.inl ⟨failure, asked, answers, ended, done⟩, fun changed => ?_⟩
    rw [done] at changed
    exact absurd rfl changed
  · obtain ⟨after, done, files, printed, asked, answers⟩ := run_of_accepted ended same
    refine ⟨.inr ⟨release, exchange, agreed, after, ended, accepted, done, files, printed, asked⟩,
      fun _ => ⟨exchange, ?_, accepted.length⟩⟩
    rw [done]
    exact { accepted with
      asked := asked.trans accepted.asked
      answers := accepted.answers.trans (by rw [answers]) }

end Stamping

end VersionStamp
