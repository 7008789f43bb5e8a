import VersionStamp.Proofs.Toml.Quoting
import VersionStamp.Toml.Document

/-! Lines of a document that was written.

A line that gives a name a text, a line that opens a table and a blank line are read back
whatever lines follow.
-/

namespace VersionStamp.Toml

variable {c : Char} {text rest : List Char} {name : String}

/-- A name that is a key without quotes. -/
def IsBareKey (name : String) : Prop :=
  name.toList ≠ [] ∧ ∀ c ∈ name.toList, isBareKeyChar c = true

instance (name : String) : Decidable (IsBareKey name) :=
  decidable_of_iff (name.toList ≠ [] ∧ name.toList.all isBareKeyChar = true)
    (by rw [IsBareKey, List.all_eq_true])

theorem bareKeyChar_plain (bare : isBareKeyChar c = true) :
    isBlank c = false ∧ isPrintable c = true ∧ c ≠ '#' ∧ c ≠ '[' := by
  have other (special : Char) (refused : isBareKeyChar special = false) : c ≠ special := by
    rintro rfl
    rw [bare] at refused
    contradiction
  have blank : isBlank c = false := by
    simp [isBlank, other ' ' (by decide), other '\t' (by decide)]
  refine ⟨blank, ?_, other '#' (by decide), other '[' (by decide)⟩
  have delete : c ≠ '\x7f' := other '\x7f' (by decide)
  have printing : ' ' ≤ c := by
    have bound : 32 ≤ c.toNat := by
      have controls : ∀ n < 32, isBareKeyChar (Char.ofNat n) = false := by decide
      refine Nat.le_of_not_lt fun small => ?_
      have refused := controls c.toNat small
      rw [Char.ofNat_toNat, bare] at refused
      contradiction
    exact UInt32.le_iff_toNat_le.mpr bound
  simp [isPrintable, delete, printing]

theorem skipBlanks_bare (bare : isBareKeyChar c = true) (rest : List Char) :
    skipBlanks (c :: rest) = c :: rest := by
  simp [skipBlanks, bareKeyChar_plain bare]

theorem endOfLine_bare (bare : isBareKeyChar c = true) (rest : List Char) :
    endOfLine (c :: rest) = none := by
  obtain ⟨_, printable, comment, _⟩ := bareKeyChar_plain bare
  have kept : skipComment (c :: rest) = c :: rest := by
    unfold skipComment
    split <;> simp_all
  rw [endOfLine, skipBlanks_bare bare, kept]
  exact newline?_of_head (by simpa using printable)

theorem simpleKey_bare (bare : IsBareKey name)
    (ended : ∀ c ∈ rest.head?, isBareKeyChar c = false) :
    simpleKey.read (name.toList ++ rest) = some (name.toList, rest) := by
  obtain ⟨taken, dropped⟩ := span_append bare.2 ended
  simp only [simpleKey, readSimpleKey, taken, dropped]
  split
  · rename_i empty
    exact absurd empty bare.1
  · rfl

theorem key_bare (bare : IsBareKey name) (ended : ∀ c ∈ rest.head?, isBareKeyChar c = false)
    (last : (skipBlanks rest).head? ≠ some '.') :
    key.read (name.toList ++ rest) = some (⟨[], name⟩, skipBlanks rest) := by
  have after : afterKeyPart name.toList rest = some ((name, false), skipBlanks rest) := by
    unfold afterKeyPart
    split <;> simp_all
  have part : (simpleKey.followed afterKeyPart afterKeyPart_keeps).read (name.toList ++ rest) =
      some ((name, false), skipBlanks rest) := by
    simp [Reader.followed, simpleKey_bare bare ended, after]
  have parts : (Reader.chain (simpleKey.followed afterKeyPart afterKeyPart_keeps)).read
      (name.toList ++ rest) = some ([name], skipBlanks rest) := Reader.readChain_last part
  have single : Key.ofParts? [name] = some ⟨[], name⟩ := rfl
  rw [key, Reader.followed]
  simp only [parts, Option.bind_some, single, Option.map_some]

def assignmentText (name value : String) : List Char :=
  name.toList ++ ' ' :: '=' :: ' ' :: (quote value).toList ++ ['\n']

def headerText (name : String) : List Char :=
  '[' :: name.toList ++ [']', '\n']

theorem quote_head (value : String) (rest : List Char) :
    ∃ sign others, (quote value).toList ++ rest = sign :: others ∧ (sign = '"' ∨ sign = '\'') := by
  rw [quote, String.toList_ofList]
  cases Quotation.choose value.toList with
  | basic | basicBlock => exact ⟨'"', _, rfl, .inl rfl⟩
  | literal | literalBlock => exact ⟨'\'', _, rfl, .inr rfl⟩

theorem string_quote (value : String) (rest : List Char) :
    string.read ((quote value).toList ++ '\n' :: rest) = some (value.toList, '\n' :: rest) := by
  rw [quote, String.toList_ofList]
  exact string_write (Quotation.holds_choose _) ⟨by simp, by simp⟩

theorem lineValue_quote (value : String) (rest : List Char) :
    lineValue.read ((quote value).toList ++ '\n' :: rest) =
      some (.string value, '\n' :: rest) := by
  have flat : flatValue.read ((quote value).toList ++ '\n' :: rest) =
      some (.string value, '\n' :: rest) := by
    simp only [flatValue, readFlatValue, string_quote, String.ofList_toList]
  obtain ⟨sign, others, text, quoted⟩ := quote_head value ('\n' :: rest)
  have read : lineValue.read = readValue (Toml.value 78) := rfl
  rw [text] at flat ⊢
  rw [read]
  unfold readValue
  split <;> simp_all

theorem readLineContent_bare (bare : isBareKeyChar c = true) (rest : List Char) :
    readLineContent (c :: rest) =
      ((assignment lineValue).map fun (key, value) => Line.assignment key value).read
        (c :: rest) := by
  have bracket := (bareKeyChar_plain bare).2.2.2
  unfold readLineContent
  split
  · rename_i equal
    exact absurd (List.cons.inj equal).1 bracket
  · rename_i equal
    exact absurd (List.cons.inj equal).1 bracket
  · rw [endOfLine_bare bare, Option.isSome_none, if_neg Bool.false_ne_true]

theorem line_read {content : Line} (blank : skipBlanks text = text) (nonempty : text ≠ [])
    (read : readLineContent text = some (content, '\n' :: rest)) :
    line.read text = some ((content, !rest.isEmpty), rest) := by
  have ended : endOfLine ('\n' :: rest) = some rest := rfl
  simp [line, readLine, nonempty, blank, read, ended]

theorem line_blank (rest : List Char) :
    line.read ('\n' :: rest) = some ((.blank, !rest.isEmpty), rest) := rfl

theorem line_header (bare : IsBareKey name) (rest : List Char) :
    line.read (headerText name ++ rest) = some ((.table ⟨[], name⟩, !rest.isEmpty), rest) := by
  have named : key.read (name.toList ++ ']' :: '\n' :: rest) =
      some (⟨[], name⟩, ']' :: '\n' :: rest) :=
    key_bare bare (by simp [isBareKeyChar]) (by simp [skipBlanks, isBlank])
  have text : headerText name ++ rest = '[' :: (name.toList ++ ']' :: '\n' :: rest) := by
    simp [headerText]
  rw [text]
  cases head : name.toList with
  | nil => exact absurd head bare.1
  | cons c others =>
      have first : isBareKeyChar c = true := bare.2 c (by simp [head])
      have bracket := (bareKeyChar_plain first).2.2.2
      rw [head, List.cons_append] at named
      apply line_read rfl (List.cons_ne_nil _ _)
      unfold readLineContent
      split
      · rename_i equal
        exact absurd (List.cons.inj (List.cons.inj equal).2).1 bracket
      · rename_i equal
        cases equal
        rw [List.cons_append, skipBlanks_bare first]
        simp only [named, expect]
        rfl
      · rename_i _ other
        exact absurd rfl (other _)

theorem afterKey_assignment (key : Key) (value : String) (rest : List Char) :
    afterKey lineValue key ('=' :: ' ' :: ((quote value).toList ++ '\n' :: rest)) =
      some ((key, .string value), '\n' :: rest) := by
  obtain ⟨sign, others, text, quoted⟩ := quote_head value ('\n' :: rest)
  have spaced : skipBlanks (' ' :: ((quote value).toList ++ '\n' :: rest)) =
      (quote value).toList ++ '\n' :: rest := by
    rw [text]
    rcases quoted with rfl | rfl <;> rfl
  simp [afterKey, expect, spaced, lineValue_quote]

theorem line_assignment (bare : IsBareKey name) (value : String) (rest : List Char) :
    line.read (assignmentText name value ++ rest) =
      some ((.assignment ⟨[], name⟩ (.string value), !rest.isEmpty), rest) := by
  have text : assignmentText name value ++ rest =
      name.toList ++ ' ' :: '=' :: ' ' :: ((quote value).toList ++ '\n' :: rest) := by
    simp [assignmentText]
  have named : key.read (assignmentText name value ++ rest) =
      some (⟨[], name⟩, '=' :: ' ' :: ((quote value).toList ++ '\n' :: rest)) := by
    rw [text]
    exact key_bare bare (by simp [isBareKeyChar]) (by simp [skipBlanks, isBlank])
  have assigned : (assignment lineValue).read (assignmentText name value ++ rest) =
      some ((⟨[], name⟩, .string value), '\n' :: rest) := by
    simp only [assignment, Reader.followed, named, Option.bind_some, afterKey_assignment]
  rw [text] at assigned ⊢
  cases head : name.toList with
  | nil => exact absurd head bare.1
  | cons c others =>
      have first : isBareKeyChar c = true := bare.2 c (by simp [head])
      rw [head, List.cons_append] at assigned
      apply line_read (skipBlanks_bare first _) (List.cons_ne_nil _ _)
      simp [readLineContent_bare first, Reader.map, assigned]

end VersionStamp.Toml
