import VersionStamp.World

/-! Outcomes of steps and of programs.

A step gives a result or a failure. Running a program is one function of a world, with an
equation for every way programs are put together.
-/

namespace VersionStamp

open VersionStamp.Files VersionStamp.Log

variable {ε ε' α β : Type} {first : Except ε α} {next : α → Except ε β}

theorem bind_eq_ok {result : β} :
    (first >>= next) = .ok result ↔ ∃ middle, first = .ok middle ∧ next middle = .ok result := by
  cases first with
  | error failure => simp [bind, Except.bind]
  | ok middle => simp [bind, Except.bind]

@[simp] theorem mapError_ok (change : ε → ε') (result : α) :
    (Except.ok result).mapError change = .ok result := rfl

@[simp] theorem mapError_error (change : ε → ε') (failure : ε) :
    (Except.error failure : Except ε α).mapError change = .error (change failure) := rfl

theorem mapError_eq_ok {change : ε → ε'} {result : α} :
    first.mapError change = .ok result ↔ first = .ok result := by
  cases first <;> simp

instance decidableEqExcept [DecidableEq ε] [DecidableEq α] : DecidableEq (Except ε α)
  | .ok one, .ok other => decidable_of_iff (one = other) ⟨congrArg _, Except.ok.inj⟩
  | .error one, .error other => decidable_of_iff (one = other) ⟨congrArg _, Except.error.inj⟩
  | .ok _, .error _ | .error _, .ok _ => isFalse nofun

namespace World

variable {world : World}

/-- What a program gives in a world, and the world it leaves. -/
def perform (world : World) (program : ExceptT ε Simulation α) : Except ε α × World :=
  program.run.run world

@[simp] theorem perform_pure (world : World) (result : α) :
    world.perform (pure result : ExceptT ε Simulation α) = (.ok result, world) := rfl

theorem perform_bind (world : World) (program : ExceptT ε Simulation α)
    (next : α → ExceptT ε Simulation β) :
    world.perform (program >>= next) =
      match world.perform program with
      | (.ok result, after) => after.perform (next result)
      | (.error failure, after) => (.error failure, after) := by
  have step : world.perform (program >>= next) =
      match world.perform program with
      | (outcome, after) => (ExceptT.bindCont next outcome).run after := rfl
  rw [step]
  rcases world.perform program with ⟨_ | _, _⟩ <;> rfl

theorem failed_bind {program : ExceptT ε Simulation α} {failure : ε}
    (failed : (world.perform program).1 = .error failure) (next : α → ExceptT ε Simulation β) :
    (world.perform (program >>= next)).1 = .error failure := by
  rw [perform_bind]
  generalize world.perform program = ended at failed
  obtain ⟨_, after⟩ := ended
  subst failed
  rfl

theorem perform_adapt (world : World) (failure : ε → ε') (program : ExceptT ε Simulation α) :
    world.perform (program.adapt failure) =
      ((world.perform program).1.mapError failure, (world.perform program).2) := rfl

theorem ext_perform {program other : ExceptT ε Simulation α}
    (same : ∀ world : World, world.perform program = world.perform other) : program = other :=
  funext same

theorem adapt_bind (failure : ε → ε') (program : ExceptT ε Simulation α)
    (next : α → ExceptT ε Simulation β) :
    (program >>= next).adapt failure =
      program.adapt failure >>= fun result => (next result).adapt failure := by
  apply ext_perform
  intro world
  rw [perform_adapt, perform_bind, perform_bind, perform_adapt]
  rcases world.perform program with ⟨_ | _, _⟩ <;> rfl

theorem perform_tryCatch (world : World) (program : ExceptT ε Simulation α)
    (handler : ε → ExceptT ε Simulation α) :
    world.perform (tryCatch program handler) =
      match world.perform program with
      | (.ok result, after) => (.ok result, after)
      | (.error failure, after) => after.perform (handler failure) := by
  have step : world.perform (tryCatch program handler) =
      match world.perform program with
      | (outcome, after) =>
          (match outcome with
            | .ok result => Pure.pure (Except.ok result)
            | .error failure => (handler failure).run : Simulation (Except ε α)).run after := rfl
  rw [step]
  rcases world.perform program with ⟨_ | _, _⟩ <;> rfl

theorem perform_attempt (world : World) (program : ExceptT FileFailure Simulation α)
    (failure : FileFailure → ε) :
    world.perform (Host.attempt program failure) =
      ((world.perform program).1.mapError failure, (world.perform program).2) := rfl

theorem perform_outcome (world : World) (program : ExceptT FileFailure Simulation α) :
    world.perform (Host.outcome program : ExceptT ε Simulation _) =
      (.ok (world.perform program).1, (world.perform program).2) := rfl

theorem perform_log (world : World) (level : Level) (origin : Origin) (text : String) :
    world.perform (Host.log level origin text : ExceptT ε Simulation Unit) =
      (.ok (), { world with records := world.records ++ [{ level, origin, text }] }) := rfl

end World

end VersionStamp
