/-! Reading from the front of a text.

A reader gives what it read and what is left of the text, which is always shorter
than the text was. All repetition goes through `chain`, which ends for this reason.
-/

namespace VersionStamp.Toml

structure Reader (α : Type) where
  read : List Char → Option (α × List Char)
  shortens : ∀ {text : List Char} {value : α} {rest : List Char},
    read text = some (value, rest) → rest.length < text.length

namespace Reader

variable {α : Type}

/-- Reads pieces as long as each of them announces another one. -/
def readChain (piece : Reader (α × Bool)) (text : List Char) : Option (List α × List Char) :=
  match _step : piece.read text with
  | none => none
  | some ((item, false), rest) => some ([item], rest)
  | some ((item, true), rest) =>
      (readChain piece rest).map fun (items, rest) => (item :: items, rest)
termination_by text.length
decreasing_by exact piece.shortens _step

theorem readChain_last {piece : Reader (α × Bool)} {text rest : List Char} {item : α}
    (step : piece.read text = some ((item, false), rest)) :
    readChain piece text = some ([item], rest) := by
  rw [readChain]
  split <;> simp_all

theorem readChain_more {piece : Reader (α × Bool)} {text rest : List Char} {item : α}
    (step : piece.read text = some ((item, true), rest)) :
    readChain piece text =
      (readChain piece rest).map fun (items, rest) => (item :: items, rest) := by
  rw [readChain]
  split <;> simp_all

theorem readChain_shortens {piece : Reader (α × Bool)} {text : List Char} :
    ∀ {items : List α} {rest : List Char},
      readChain piece text = some (items, rest) → rest.length < text.length := by
  fun_induction readChain piece text with
  | case1 => simp
  | case2 text item left step =>
      intro items rest found
      cases found
      exact piece.shortens step
  | case3 text item left step ih =>
      intro items rest found
      have shorter := piece.shortens step
      cases tail : readChain piece left with
      | none => simp [tail] at found
      | some read =>
          obtain ⟨others, last⟩ := read
          have shortest := ih tail
          simp [tail] at found
          obtain ⟨_, rfl⟩ := found
          omega

def chain (piece : Reader (α × Bool)) : Reader (List α) :=
  ⟨readChain piece, readChain_shortens⟩

def map {β : Type} (change : α → β) (reader : Reader α) : Reader β where
  read text := (reader.read text).map fun (value, rest) => (change value, rest)
  shortens found := by
    obtain ⟨⟨value, rest⟩, read, equal⟩ := Option.map_eq_some_iff.mp found
    cases equal
    exact reader.shortens read

/-- Goes on reading with what was read in mind; this need not take anything more. -/
def followed {β : Type} (reader : Reader α) (next : α → List Char → Option (β × List Char))
    (keeps : ∀ {value : α} {text : List Char} {result : β} {rest : List Char},
      next value text = some (result, rest) → rest.length ≤ text.length) : Reader β where
  read text := (reader.read text).bind fun (value, rest) => next value rest
  shortens found := by
    obtain ⟨⟨value, rest⟩, read, last⟩ := Option.bind_eq_some_iff.mp found
    exact Nat.lt_of_le_of_lt (keeps last) (reader.shortens read)

end Reader

def isBlank (c : Char) : Bool := c == ' ' || c == '\t'

/-- Characters that may stand unescaped in texts and comments. -/
def isPrintable (c : Char) : Bool := c == '\t' || (' ' ≤ c && c != '\x7f')

theorem length_dropWhile_le (keep : Char → Bool) (text : List Char) :
    (text.dropWhile keep).length ≤ text.length :=
  (List.dropWhile_sublist keep).length_le

def skipBlanks (text : List Char) : List Char := text.dropWhile isBlank

theorem length_skipBlanks_le (text : List Char) : (skipBlanks text).length ≤ text.length :=
  length_dropWhile_le isBlank text

def newline? : List Char → Option (List Char)
  | '\n' :: rest => some rest
  | '\r' :: '\n' :: rest => some rest
  | _ => none

theorem newline?_shortens {text rest : List Char} (found : newline? text = some rest) :
    rest.length < text.length := by
  unfold newline? at found
  split at found
  · cases found
    exact Nat.lt_succ_self _
  · cases found
    exact Nat.lt_succ_of_lt (Nat.lt_succ_self _)
  · cases found

def skipComment : List Char → List Char
  | '#' :: comment => comment.dropWhile isPrintable
  | text => text

theorem length_skipComment_le (text : List Char) : (skipComment text).length ≤ text.length := by
  unfold skipComment
  split
  · exact Nat.le_succ_of_le (length_dropWhile_le _ _)
  · exact Nat.le_refl _

/-- The end of a line, with blanks and a comment before it. The end of the text ends
its last line. -/
def endOfLine (text : List Char) : Option (List Char) :=
  match skipComment (skipBlanks text) with
  | [] => some []
  | text => newline? text

theorem endOfLine_shortens {text rest : List Char} (found : endOfLine text = some rest) :
    rest = [] ∨ rest.length < text.length := by
  have comment := length_skipComment_le (skipBlanks text)
  have blanks := length_skipBlanks_le text
  unfold endOfLine at found
  split at found
  · cases found
    exact .inl rfl
  · have ended := newline?_shortens found
    exact .inr (by omega)

/-- Takes a certain character. -/
def expect (sign : Char) : List Char → Option (List Char)
  | [] => none
  | c :: rest => if c = sign then some rest else none

theorem expect_shortens {sign : Char} {text rest : List Char}
    (found : expect sign text = some rest) : rest.length < text.length := by
  unfold expect at found
  split at found
  · cases found
  · split at found
    · cases found
      exact Nat.lt_succ_self _
    · cases found

/-- Skips blanks, line ends and comments. The flag tells whether the text begins
within a comment. -/
def skipTrivia : Bool → List Char → List Char
  | _, [] => []
  | _, '\n' :: rest => skipTrivia false rest
  | _, '\r' :: '\n' :: rest => skipTrivia false rest
  | true, c :: rest => if isPrintable c then skipTrivia true rest else c :: rest
  | false, c :: rest =>
      if isBlank c then skipTrivia false rest
      else if c = '#' then skipTrivia true rest
      else c :: rest

theorem length_skipTrivia_le (comment : Bool) (text : List Char) :
    (skipTrivia comment text).length ≤ text.length := by
  fun_induction skipTrivia comment text <;> simp_all <;> omega

end VersionStamp.Toml
