import VersionStamp.Proofs.Files.Outline
import VersionStamp.Proofs.Text.Encoding
import VersionStamp.Proofs.Text.LineSplitting
import VersionStamp.Proofs.Worlds
import VersionStamp.Terminal

/-! Answers that come through a pipe.

Each answer is written on a line of its own. The byte that ends a line is part of no other
character, so reading the lines gives the answers back, and an input that has ended is
taken as closed.
-/

namespace VersionStamp

open VersionStamp.Files VersionStamp.Release VersionStamp.Text

theorem Text.lineFeed_notMem_toUTF8 {text : String} (plain : '\n' ∉ text.toList) :
    10 ∉ text.toUTF8.data.toList := by
  rw [Text.toList_toUTF8, List.mem_flatMap]
  rintro ⟨c, member, byte⟩
  have same := Text.toNat_of_mem_utf8EncodeChar byte (by decide)
  have feed : c = '\n' := Char.toNat_inj.mp same
  exact plain (feed ▸ member)

theorem World.takeLine_append {line : List UInt8} (open_ : 10 ∉ line) (rest : List UInt8) :
    World.takeLine (line ++ 10 :: rest) = (line ++ [10], rest) := by
  induction line with
  | nil => rfl
  | cons byte line ih =>
      rw [List.mem_cons, not_or] at open_
      rw [List.cons_append, World.takeLine, if_neg (Ne.symm open_.1), ih open_.2]
      rfl

namespace Terminal

/-- Nothing in an answer ends its line or takes back a part of it. -/
def IsTypedAsIs (answer : String) : Prop :=
  '\n' ∉ answer.toList ∧ '\r' ∉ answer.toList ∧ '\x08' ∉ answer.toList

/-- Answers as they come through a pipe, each on a line of its own. -/
def typed (answers : List String) : List UInt8 :=
  answers.flatMap fun answer => (answer ++ "\n").toUTF8.data.toList

variable {answer : String}

theorem takeLine_typed (plain : '\n' ∉ answer.toList) (answers : List String)
    (rest : List UInt8) :
    World.takeLine (typed (answer :: answers) ++ rest) =
      ((answer ++ "\n").toUTF8.data.toList, typed answers ++ rest) := by
  have line : (answer ++ "\n").toUTF8.data.toList = answer.toUTF8.data.toList ++ [10] := by
    simp [String.toUTF8, String.toByteArray_append]
    rfl
  rw [typed, List.flatMap_cons, line, List.append_assoc, List.append_assoc]
  exact World.takeLine_append (lineFeed_notMem_toUTF8 plain) _

theorem answerOf_line (plain : IsTypedAsIs answer) :
    answerOf (answer ++ "\n").toUTF8 = .ok answer := by
  obtain ⟨_, returns, kept⟩ := plain
  have filled : (answer ++ "\n").toUTF8.isEmpty = false := by
    simp [ByteArray.isEmpty, String.toUTF8]
  have body : answer.toList.getLast? ≠ some '\r' := fun last =>
    returns (List.mem_of_getLast? last)
  rw [answerOf, filled, decode_toUTF8]
  simp only [Bool.false_eq_true, if_false, String.toList_append]
  have line : "\n".toList = ['\n'] := rfl
  rw [line, withoutTerminator_append body, withoutBackspaces_of_notMem kept, String.ofList_toList]

/-- An answer is the next line of the input, and nothing else of the world is used. -/
theorem perform_answer (world : World) (part : Part) :
    ∃ printed records, world.perform (Terminal.answer part) =
      (answerOf ⟨(World.takeLine world.input).1.toArray⟩,
        { world with input := (World.takeLine world.input).2, printed, records }) := by
  have looked : world.perform (ExceptT.lift (Host.environment (m := Simulation) "TERM")) =
      ((.ok (world.environment.lookup "TERM") : Except PromptFailure _), world) := rfl
  rw [Terminal.answer, World.perform_bind, looked]
  cases plain : isPlain (world.environment.lookup "TERM") with
  | true =>
      simp only [plain, if_true]
      exact ⟨_, _, rfl⟩
  | false =>
      simp only [plain, Bool.false_eq_true, if_false]
      exact ⟨_, _, rfl⟩

end Terminal

end VersionStamp
