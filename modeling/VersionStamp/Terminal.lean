import VersionStamp.Dialogue
import VersionStamp.Host
import VersionStamp.Text.Lines
import VersionStamp.Text.Typed

/-! Answers from lines of input. -/

namespace VersionStamp.Terminal

open VersionStamp.Files VersionStamp.Log VersionStamp.Release

variable {m : Type → Type} [Monad m] [Host m]

def answerOf (line : ByteArray) : Except PromptFailure String :=
  if line.isEmpty then .error .closed
  else
    match Host.decode line with
    | .ok text => .ok (String.ofList (Text.withoutBackspaces (Text.withoutTerminator text.toList)))
    | .error cause => .error (.unreadable cause)

/-- Terminals that cannot edit a line. Only they are shown the questions when the input
does not come from a keyboard. -/
def plainTerminals : List String := ["dumb", "cons25", "emacs"]

def isPlain (name : Option Path) : Bool :=
  match name.bind Path.toString? with
  | none => false
  | some name => plainTerminals.any fun plain => plain.toList == name.toList.map Char.toLower

/-- Takes the next line of input as an answer. -/
def answer (part : Part) : ExceptT PromptFailure m String := do
  if isPlain (← ExceptT.lift (Host.environment (m := m) "TERM")) then
    Host.log .debug .terminal "unsupported terminal"
    Host.say part.question
  else Host.log .debug .terminal "stdin is not a tty"
  let line ← Host.attempt Host.readLine .unreadable
  ExceptT.mk (pure (answerOf line))

end VersionStamp.Terminal
