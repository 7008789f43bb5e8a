import VersionStamp.Command
import VersionStamp.Proofs.Settings.Search
import VersionStamp.Proofs.Stamping.Acceptance
import VersionStamp.Proofs.Terminal

/-! The command is a run with the answers of its input.

What the command does to files, and whether it succeeds, is what the same run does with a
script that gives the answers typed. The log, the kind of terminal and what else the
environment or the input holds have no part in it.
-/

namespace VersionStamp

open VersionStamp.Artifact VersionStamp.Files VersionStamp.Release VersionStamp.World

/-- What the command stands for, with a script that answers. -/
def Command.scripted : ExceptT CommandFailure Simulation Report := do
  let settings ← Settings.find.adapt CommandFailure.settings
  let locations ← settings.locations.adapt CommandFailure.settings
  (Stamping.run locations settings.buildNumber World.answer).adapt CommandFailure.run

/-- What the answers of a script are in one world comes through the input of the other,
where more may follow. -/
structure Piped (answers : List String) (rest : List UInt8) (script piped : World) : Prop where
  outset : script.SameOutset piped
  scripted : script.answers = answers.map .ok
  input : piped.input = Terminal.typed answers ++ rest

/-- Runs that end alike, unless the script ran out of answers although more was typed. -/
def EndAlike {ε α : Type} (closed : ε) (rest : List UInt8) (one other : Except ε α × World) :
    Prop :=
  rest = [] ∨ one.1 ≠ .error closed → SameEnd one other

variable {ε ε' α β : Type} {answers : List String} {rest : List UInt8}
  {script piped after otherAfter : World}

theorem Piped.logging (both : Piped answers rest script piped)
    (first : Effect.logging.allows script after)
    (second : Effect.logging.allows piped otherAfter) : Piped answers rest after otherAfter := by
  have outset := both.outset.logging first second
  obtain ⟨_, rfl⟩ := first
  obtain ⟨_, rfl⟩ := second
  exact ⟨outset, both.scripted, both.input⟩

namespace EndAlike

/-- A program that only looks for settings leads both runs on with one result. -/
theorem bind {closed : ε} {program : ExceptT ε Simulation α}
    {next otherNext : α → ExceptT ε Simulation β} (follows : FollowsOutset program)
    (both : Piped answers rest script piped)
    (alike : ∀ result after otherAfter, Piped answers rest after otherAfter →
      EndAlike closed rest (after.perform (next result)) (otherAfter.perform (otherNext result))) :
    EndAlike closed rest (script.perform (program >>= next))
      (piped.perform (program >>= otherNext)) := by
  have results := follows.result script piped both.outset
  have afterwards := both.logging (follows.logging script) (follows.logging piped)
  rw [perform_bind, perform_bind]
  generalize script.perform program = one at results afterwards ⊢
  generalize piped.perform program = two at results afterwards ⊢
  obtain ⟨outcome, left⟩ := one
  obtain ⟨_, right⟩ := two
  subst results
  cases outcome with
  | error failure => exact fun _ => ⟨rfl, afterwards.outset.toSameFiles⟩
  | ok result => exact alike result left right afterwards

theorem noted {closed : ε} {level : Log.Level} {origin : Log.Origin} {text : String}
    {program other : ExceptT ε Simulation α} (both : Piped answers rest script piped)
    (alike : ∀ otherAfter, Piped answers rest script otherAfter →
      EndAlike closed rest (script.perform program) (otherAfter.perform other)) :
    EndAlike closed rest (script.perform program)
      (piped.perform (Host.log level origin text >>= fun _ => other)) :=
  alike { piped with records := piped.records ++ [{ level, origin, text }] }
    (both.logging (Effect.logging.refl script) ⟨_, rfl⟩)

theorem adapt {closed : ε} {failure : ε → ε'} {program other : ExceptT ε Simulation α}
    (alike : EndAlike closed rest (script.perform program) (piped.perform other)) :
    EndAlike (failure closed) rest (script.perform (program.adapt failure))
      (piped.perform (other.adapt failure)) := by
  intro enough
  have answered : rest = [] ∨ (script.perform program).1 ≠ .error closed :=
    enough.imp_right fun going failed => going (congrArg (Except.mapError failure) failed)
  obtain ⟨results, left⟩ := alike answered
  exact ⟨congrArg (Except.mapError failure) results, left⟩

theorem followed {closed : ε} {program other : ExceptT ε Simulation α}
    {next : α → ExceptT ε Simulation β}
    (alike : EndAlike closed rest (script.perform program) (piped.perform other))
    (follows : ∀ result, FollowsFiles (next result)) :
    EndAlike closed rest (script.perform (program >>= next)) (piped.perform (other >>= next)) := by
  intro enough
  have answered := enough.imp_right (mt fun failed => failed_bind failed next)
  exact (alike answered).bind follows

end EndAlike

theorem Piped.answer {answer : String} (both : Piped (answer :: answers) rest script piped)
    (plain : Terminal.IsTypedAsIs answer) (part : Part) :
    ∃ after otherAfter, script.perform (World.answer part) = (.ok answer, after) ∧
      piped.perform (Terminal.answer part) = (.ok answer, otherAfter) ∧
      Piped answers rest after otherAfter := by
  obtain ⟨printed, records, typed⟩ := Terminal.perform_answer piped part
  rw [both.input, Terminal.takeLine_typed plain.1] at typed
  rw [World.perform_answer, both.scripted]
  refine ⟨_, _, rfl, typed.trans (Prod.ext (Terminal.answerOf_line plain) rfl), ?_⟩
  exact ⟨⟨⟨both.outset.files, both.outset.directory, both.outset.interruptions⟩,
    both.outset.accountHome, both.outset.consulted⟩, rfl, rfl⟩

theorem Piped.closed (both : Piped [] [] script piped) (part : Part) :
    ∃ after otherAfter, script.perform (World.answer part) = (.error .closed, after) ∧
      piped.perform (Terminal.answer part) = (.error .closed, otherAfter) ∧
      after.SameFiles otherAfter := by
  obtain ⟨printed, records, typed⟩ := Terminal.perform_answer piped part
  have ended : piped.input = [] := both.input
  rw [ended] at typed
  rw [World.perform_answer, both.scripted]
  exact ⟨_, _, rfl, typed, ⟨both.outset.files, both.outset.directory,
    both.outset.interruptions⟩⟩

/-- Questions are answered alike by a script and from the lines of an input. -/
theorem Dialogue.hold_endAlike (dialogue : Dialogue α) (both : Piped answers rest script piped)
    (plain : ∀ answer ∈ answers, Terminal.IsTypedAsIs answer) :
    EndAlike (.prompt .closed) rest (script.perform (hold World.answer dialogue))
      (piped.perform (hold Terminal.answer dialogue)) := by
  induction dialogue generalizing answers script piped with
  | done result => exact fun _ => ⟨rfl, both.outset.toSameFiles⟩
  | ask part next ih =>
      rw [hold, hold]
      cases answers with
      | nil =>
          -- the script has run out here, so nothing more was typed either
          intro enough
          have out : (script.perform ((World.answer part).adapt DialogueFailure.prompt)).1 =
              .error (.prompt .closed) := by
            rw [perform_adapt, World.perform_answer, both.scripted]
            rfl
          obtain rfl := enough.resolve_right (not_not_intro (failed_bind out _))
          obtain ⟨after, otherAfter, scripted, typed, same⟩ := both.closed part
          rw [perform_bind, perform_bind, perform_adapt, perform_adapt, scripted, typed]
          exact ⟨rfl, same⟩
      | cons answer answers =>
          obtain ⟨here, others⟩ := List.forall_mem_cons.mp plain
          obtain ⟨after, otherAfter, scripted, typed, left⟩ := both.answer here part
          rw [perform_bind, perform_bind, perform_adapt, perform_adapt, scripted, typed]
          exact ih answer left others

theorem Stamping.run_endAlike {locations : Locations} {settings : BuildNumberSettings}
    (both : Piped answers rest script piped)
    (plain : ∀ answer ∈ answers, Terminal.IsTypedAsIs answer) :
    EndAlike (.dialogue (.prompt .closed)) rest
      (script.perform (run locations settings World.answer))
      (piped.perform (run locations settings Terminal.answer)) := by
  rw [run_eq_renew, run_eq_renew]
  refine (Dialogue.hold_endAlike _ both plain).adapt.followed fun release => ?_
  have announced : FollowsFiles (announce release : ExceptT RunFailure Simulation Unit) :=
    fun _ _ same => ⟨rfl, same.files, same.directory, same.interruptions⟩
  exact announced.bind fun _ => (followsFiles_renew locations release).adapt _

namespace Command

theorem perform_endAlike (both : Piped answers rest script piped)
    (plain : ∀ answer ∈ answers, Terminal.IsTypedAsIs answer) :
    EndAlike (.run (.dialogue (.prompt .closed))) rest (script.perform scripted)
      (piped.perform perform) := by
  refine .bind (Settings.followsOutset_find.adapt _) both fun settings after otherAfter left => ?_
  refine .bind ((Settings.followsOutset_locations settings).adapt _) left
    fun locations after otherAfter left => ?_
  exact .noted left fun noted same => (Stamping.run_endAlike same plain).adapt

/-- The exit status of the command in a world, and the world it leaves. -/
def runIn (world : World) : UInt32 × World := (Command.run : Simulation UInt32).run world

theorem runIn_of_ok {world : World} {report : Report}
    (done : world.perform perform = (.ok report, after)) : runIn world = (0, after) := by
  rw [World.perform] at done
  rw [runIn, Command.run, StateT.run_bind, done]
  rfl

theorem runIn_of_error {world : World} {failure : CommandFailure}
    (failed : world.perform perform = (.error failure, after)) :
    runIn world = (1, { after with
      records := after.records ++
        [{ level := .error, origin := .command, text := failure.message }] }) := by
  rw [World.perform] at failed
  rw [runIn, Command.run, StateT.run_bind, failed]
  rfl

/-- The command succeeds, with status 0, when the same run does with a script that gives the
answers typed, and ends with status 1 otherwise. In both cases it leaves the same files.
Other variables of the environment have no part in it. What was typed after the answers
has none either, as long as the run does not ask for more of them. -/
theorem run_refines_script (both : Piped answers rest script piped)
    (plain : ∀ answer ∈ answers, Terminal.IsTypedAsIs answer)
    (enough : rest = [] ∨
      (script.perform scripted).1 ≠ .error (.run (.dialogue (.prompt .closed)))) :
    ((runIn piped).1 = match (script.perform scripted).1 with | .ok _ => 0 | .error _ => 1) ∧
      (runIn piped).2.files = (script.perform scripted).2.files := by
  obtain ⟨results, left⟩ := perform_endAlike both plain enough
  rw [results, left.files]
  rcases ended : piped.perform perform with ⟨failure | report, after⟩
  · rw [runIn_of_error ended]
    exact ⟨rfl, rfl⟩
  · rw [runIn_of_ok ended]
    exact ⟨rfl, rfl⟩

/-- The terminal is one that shows the questions, the log is off, and a line follows that
nothing asks for. -/
theorem run_refines_script_of_more_lines :
    let place (path : String) : Location := (Path.ofString path).pieces.reverse
    let directories := ["build", "SourceFiles", "SourceFiles/core", "Resources", "Resources/winrc"]
    let sources := ["SourceFiles/core/version.h", "Resources/winrc/Telegram.rc",
      "Resources/winrc/Updater.rc"]
    let files := sources.foldl (fun files path => files.set (place path)
        (.file "constexpr auto AppVersion = 9;\n".toUTF8 .full))
      (directories.foldl (fun files path => files.set (place path) (.directory .full)) .empty)
    let answers := ["1", " 2", "3", "45"]
    let rest := "6\n".toUTF8.data.toList
    let home := ("HOME", Path.ofString "/home")
    let script : World :=
      { files
        directory := place "build"
        environment := [home]
        answers := answers.map .ok }
    let piped : World :=
      { files
        directory := place "build"
        environment := [("TERM", .ofString "dumb"), ("RUST_LOG", .ofString "off"), home]
        input := Terminal.typed answers ++ rest }
    Piped answers rest script piped ∧ (∀ answer ∈ answers, Terminal.IsTypedAsIs answer) ∧
      (script.perform scripted).1 ≠ .error (.run (.dialogue (.prompt .closed))) ∧
      (runIn piped).1 = 0 ∧ (runIn piped).2.files = (script.perform scripted).2.files := by
  intro place directories sources files answers rest home script piped
  have both : Piped answers rest script piped :=
    ⟨⟨⟨rfl, rfl, rfl⟩, rfl, by decide +kernel⟩, rfl, rfl⟩
  have plain : ∀ answer ∈ answers, Terminal.IsTypedAsIs answer := by
    unfold Terminal.IsTypedAsIs
    decide +kernel
  have succeeds : (script.perform scripted).1.isOk = true := by decide +kernel
  cases ended : (script.perform scripted).1 with
  | error failure =>
      rw [ended] at succeeds
      cases succeeds
  | ok report =>
      have enough : (script.perform scripted).1 ≠ .error (.run (.dialogue (.prompt .closed))) := by
        rw [ended]
        simp
      obtain ⟨status, same⟩ := run_refines_script both plain (.inr enough)
      rw [ended] at status enough
      exact ⟨both, plain, enough, status, same⟩

end Command

end VersionStamp
