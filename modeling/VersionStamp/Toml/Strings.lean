import VersionStamp.Toml.Reader

/-! Reading the four forms of strings.

Each form is read piece by piece after its opening quotes; the piece that holds the
closing quotes is the last one.
-/

namespace VersionStamp.Toml

def hexDigit? (c : Char) : Option Nat :=
  if '0' ≤ c ∧ c ≤ '9' then some (c.toNat - '0'.toNat)
  else if 'a' ≤ c ∧ c ≤ 'f' then some (c.toNat - 'a'.toNat + 10)
  else if 'A' ≤ c ∧ c ≤ 'F' then some (c.toNat - 'A'.toNat + 10)
  else none

/-- Reads hexadecimal digits, as many as asked for, behind those read before. -/
def hexNumber : Nat → Nat → List Char → Option (Nat × List Char)
  | value, 0, text => some (value, text)
  | _, _ + 1, [] => none
  | value, count + 1, c :: rest => do
      let digit ← hexDigit? c
      hexNumber (value * 16 + digit) count rest

theorem length_hexNumber_le {value count : Nat} {text : List Char} :
    ∀ {number : Nat} {rest : List Char},
      hexNumber value count text = some (number, rest) → rest.length ≤ text.length := by
  fun_induction hexNumber value count text with
  | case1 => simp_all
  | case2 => simp
  | case3 value count c rest ih =>
      intro number left found
      obtain ⟨digit, _, read⟩ := Option.bind_eq_some_iff.mp found
      exact Nat.le_succ_of_le (ih digit read)

/-- A character by its number, which must not be that of a surrogate. -/
def numberedChar (digits : Nat) (text : List Char) : Option (Char × List Char) := do
  let (number, rest) ← hexNumber 0 digits text
  if number.isValidChar then return (Char.ofNat number, rest) else none

theorem length_numberedChar_le {digits : Nat} {text rest : List Char} {c : Char}
    (found : numberedChar digits text = some (c, rest)) : rest.length ≤ text.length := by
  obtain ⟨⟨number, left⟩, read, checked⟩ := Option.bind_eq_some_iff.mp found
  simp only at checked
  split at checked
  · cases checked
    exact length_hexNumber_le read
  · cases checked

/-- What stands after a backslash. -/
def readEscape : List Char → Option (Char × List Char)
  | 'b' :: rest => some ('\x08', rest)
  | 't' :: rest => some ('\t', rest)
  | 'n' :: rest => some ('\n', rest)
  | 'f' :: rest => some ('\x0c', rest)
  | 'r' :: rest => some ('\r', rest)
  | '"' :: rest => some ('"', rest)
  | '\\' :: rest => some ('\\', rest)
  | 'u' :: rest => numberedChar 4 rest
  | 'U' :: rest => numberedChar 8 rest
  | _ => none

def escape : Reader Char where
  read := readEscape
  shortens found := by
    unfold readEscape at found
    split at found
    case h_8 | h_9 => exact Nat.lt_succ_of_le (length_numberedChar_le found)
    all_goals cases found <;> exact Nat.lt_succ_self _

/-- Characters of a string, and whether more of the string follows. -/
abbrev Piece := List Char × Bool

/-- A character that stands for itself. -/
def plainPiece : List Char → Option (Piece × List Char)
  | [] => none
  | c :: rest => if isPrintable c then some (([c], true), rest) else none

theorem plainPiece_shortens {text rest : List Char} {piece : Piece}
    (found : plainPiece text = some (piece, rest)) : rest.length < text.length := by
  unfold plainPiece at found
  split at found
  · cases found
  · split at found
    · cases found
      exact Nat.lt_succ_self _
    · cases found

def escapedPiece : Reader Piece := escape.map fun c => ([c], true)

/-- A run of quotes within a text in triple quotes. Fewer than three are text; three
close the text, and up to two before them still belong to it. -/
def quotesPiece (quote : Char) (text : List Char) : Option (Piece × List Char) :=
  let run := text.takeWhile (· == quote)
  let rest := text.dropWhile (· == quote)
  if run.length < 3 then some ((run, true), rest)
  else if run.length ≤ 5 then some ((run.drop 3, false), rest)
  else none

theorem quotesPiece_shortens {quote : Char} {others rest : List Char} {piece : Piece}
    (found : quotesPiece quote (quote :: others) = some (piece, rest)) :
    rest.length < (quote :: others).length := by
  have left : rest = others.dropWhile (· == quote) := by
    unfold quotesPiece at found
    simp only [List.dropWhile_cons, BEq.rfl, if_true] at found
    split at found
    · simp_all
    · split at found <;> simp_all
  subst left
  exact Nat.lt_succ_of_le (length_dropWhile_le _ _)

def readBasicPiece : List Char → Option (Piece × List Char)
  | '"' :: rest => some (([], false), rest)
  | '\\' :: rest => escapedPiece.read rest
  | text => plainPiece text

def basicPiece : Reader Piece where
  read := readBasicPiece
  shortens found := by
    unfold readBasicPiece at found
    split at found
    · cases found
      exact Nat.lt_succ_self _
    · exact Nat.lt_succ_of_lt (escapedPiece.shortens found)
    · exact plainPiece_shortens found

def readLiteralPiece : List Char → Option (Piece × List Char)
  | '\'' :: rest => some (([], false), rest)
  | text => plainPiece text

def literalPiece : Reader Piece where
  read := readLiteralPiece
  shortens found := by
    unfold readLiteralPiece at found
    split at found
    · cases found
      exact Nat.lt_succ_self _
    · exact plainPiece_shortens found

/-- Line ends become line feeds, whatever they were. -/
def linePiece (text : List Char) : Option (Piece × List Char) :=
  match newline? text with
  | some rest => some ((['\n'], true), rest)
  | none => plainPiece text

theorem linePiece_shortens {text rest : List Char} {piece : Piece}
    (found : linePiece text = some (piece, rest)) : rest.length < text.length := by
  unfold linePiece at found
  split at found
  next ended =>
    cases found
    exact newline?_shortens ended
  next => exact plainPiece_shortens found

/-- Blanks and line ends that follow an escaped line end are left out. -/
def skipSpace : List Char → List Char
  | '\r' :: '\n' :: rest => skipSpace rest
  | c :: rest => if isBlank c || c == '\n' then skipSpace rest else c :: rest
  | [] => []

theorem length_skipSpace_le (text : List Char) : (skipSpace text).length ≤ text.length := by
  fun_induction skipSpace text <;> simp_all <;> omega

def readBasicBlockPiece : List Char → Option (Piece × List Char)
  | '"' :: rest => quotesPiece '"' ('"' :: rest)
  | '\\' :: rest =>
      match newline? (skipBlanks rest) with
      | some next => some (([], true), skipSpace next)
      | none => escapedPiece.read rest
  | text => linePiece text

def basicBlockPiece : Reader Piece where
  read := readBasicBlockPiece
  shortens found := by
    unfold readBasicBlockPiece at found
    split at found
    · exact quotesPiece_shortens found
    · rename_i rest
      split at found
      next next ended =>
        cases found
        have space := length_skipSpace_le next
        have line := newline?_shortens ended
        have blanks := length_skipBlanks_le rest
        simp only [List.length_cons]
        omega
      next => exact Nat.lt_succ_of_lt (escapedPiece.shortens found)
    · exact linePiece_shortens found

def readLiteralBlockPiece : List Char → Option (Piece × List Char)
  | '\'' :: rest => quotesPiece '\'' ('\'' :: rest)
  | text => linePiece text

def literalBlockPiece : Reader Piece where
  read := readLiteralBlockPiece
  shortens found := by
    unfold readLiteralBlockPiece at found
    split at found
    · exact quotesPiece_shortens found
    · exact linePiece_shortens found

/-- All pieces of a string, up to its closing quotes. -/
def pieces (piece : Reader Piece) : Reader (List Char) := (Reader.chain piece).map List.flatten

/-- A line end right after the opening quotes does not belong to the text. -/
def skipNewline (text : List Char) : List Char := (newline? text).getD text

theorem length_skipNewline_le (text : List Char) : (skipNewline text).length ≤ text.length := by
  unfold skipNewline
  cases ended : newline? text with
  | none => exact Nat.le_refl _
  | some rest => exact Nat.le_of_lt (newline?_shortens ended)

def readLineString : List Char → Option (List Char × List Char)
  | '"' :: rest => (pieces basicPiece).read rest
  | '\'' :: rest => (pieces literalPiece).read rest
  | _ => none

/-- A string on one line, as keys may be. -/
def lineString : Reader (List Char) where
  read := readLineString
  shortens found := by
    unfold readLineString at found
    split at found
    · exact Nat.lt_succ_of_lt ((pieces basicPiece).shortens found)
    · exact Nat.lt_succ_of_lt ((pieces literalPiece).shortens found)
    · cases found

def readString : List Char → Option (List Char × List Char)
  | '"' :: '"' :: '"' :: rest => (pieces basicBlockPiece).read (skipNewline rest)
  | '\'' :: '\'' :: '\'' :: rest => (pieces literalBlockPiece).read (skipNewline rest)
  | text => lineString.read text

def string : Reader (List Char) where
  read := readString
  shortens found := by
    unfold readString at found
    split at found
    · rename_i rest
      have shorter := (pieces basicBlockPiece).shortens found
      have skipped := length_skipNewline_le rest
      simp only [List.length_cons]
      omega
    · rename_i rest
      have shorter := (pieces literalBlockPiece).shortens found
      have skipped := length_skipNewline_le rest
      simp only [List.length_cons]
      omega
    · exact lineString.shortens found

end VersionStamp.Toml
