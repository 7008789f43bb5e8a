import VersionStamp.Files.Path
import VersionStamp.Release.Basic
import VersionStamp.Settings.Basic

/-! The questions that lead to a release.

A dialogue is a tree of questions. What a question leads to depends on the answers
alone, so whatever asks them (a terminal or a script) cannot change what is asked.
-/

namespace VersionStamp

open VersionStamp.Files VersionStamp.Release

/-- Why a question went without an answer. -/
inductive PromptFailure where
  | closed
  | unreadable (cause : FileFailure)
  | refused (text : String)
deriving Repr, DecidableEq

namespace PromptFailure

def message : PromptFailure → String
  | .closed => "Input closed, nothing was changed"
  | .unreadable cause => cause.message
  | .refused text => text

def chain : PromptFailure → List String
  | .unreadable cause => [cause.message, cause.message]
  | failure => [failure.message]

end PromptFailure

inductive DialogueFailure where
  | prompt (failure : PromptFailure)
  | version (failure : ReleaseFailure)
deriving Repr, DecidableEq

namespace DialogueFailure

def chain : DialogueFailure → List String
  | .prompt failure => failure.chain
  | .version failure => [failure.message]

end DialogueFailure

def Release.Part.question : Part → String
  | .major => "Enter your major version: "
  | .minor => "Minor: "
  | .patch => "Patch: "
  | .material => "materialgram version: "
  | .buildNumber => "Build number: "

inductive Dialogue (α : Type) where
  | done (result : Except ReleaseFailure α)
  | ask (part : Part) (next : String → Dialogue α)

namespace Dialogue

/-- The rule of a build number, which for the prefixed scheme takes a further answer. -/
def finish (settings : BuildNumberSettings) (components : Components) : Dialogue Release :=
  match settings.scheme with
  | .zeroPadded => .done (Release.derive components .zeroPadded)
  | .arithmetic => .done (Release.derive components .arithmetic)
  | .prefixed =>
      .ask .buildNumber fun input =>
        .done do
          let suffix ← numeral .buildNumber input
          Release.derive components (.prefixed settings.lead suffix)

/-- Asks for the four components, and checks them once all are answered. -/
def release (settings : BuildNumberSettings) : Dialogue Release :=
  .ask .major fun major =>
    .ask .minor fun minor =>
      .ask .patch fun patch =>
        .ask .material fun material =>
          match Components.ofInputs { major, minor, patch, material } with
          | .error failure => .done (.error failure)
          | .ok components => finish settings components

/-- Holds a dialogue, with `answer` to answer its questions. -/
def hold {m : Type → Type} [Monad m] {α : Type}
    (answer : Part → ExceptT PromptFailure m String) :
    Dialogue α → ExceptT DialogueFailure m α
  | .done result => ExceptT.mk (pure (result.mapError DialogueFailure.version))
  | .ask part next => do
      let input ← (answer part).adapt DialogueFailure.prompt
      hold answer (next input)

end Dialogue

end VersionStamp
