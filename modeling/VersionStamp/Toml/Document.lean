import VersionStamp.Toml.Plain
import VersionStamp.Toml.Strings

/-! Reading documents.

A document is a sequence of lines, each of which opens a table, assigns a value or
is blank. A value may run over several lines. The lines are carried out one after
another on the entries of the document.
-/

namespace VersionStamp.Toml

/-- Values nest less deep, and keys have fewer parts, than this. -/
def nestingLimit : Nat := 80

/-- A dotted key: the path to a table and a name in it. -/
structure Key where
  path : List String
  name : String
deriving Repr, DecidableEq

def Key.parts (key : Key) : List String := key.path ++ [key.name]

def Key.ofParts? (parts : List String) : Option Key := do
  let name ← parts.getLast?
  if parts.length < nestingLimit then return { path := parts.dropLast, name } else none

def isBareKeyChar (c : Char) : Bool := c.isAlphanum || c == '-' || c == '_'

def readSimpleKey (text : List Char) : Option (List Char × List Char) :=
  match text.takeWhile isBareKeyChar with
  | [] => lineString.read text
  | bare => some (bare, text.dropWhile isBareKeyChar)

def simpleKey : Reader (List Char) where
  read := readSimpleKey
  shortens {text} _ _ found := by
    unfold readSimpleKey at found
    split at found
    · exact lineString.shortens found
    · rename_i bare nonempty
      cases found
      have parts := congrArg List.length
        (List.takeWhile_append_dropWhile (p := isBareKeyChar) (l := text))
      have positive := List.length_pos_iff.mpr nonempty
      rw [List.length_append] at parts
      omega

/-- After a part of a key, a dot announces a further part. -/
def afterKeyPart (name text : List Char) : Option ((String × Bool) × List Char) :=
  match skipBlanks text with
  | '.' :: rest => some ((String.ofList name, true), skipBlanks rest)
  | rest => some ((String.ofList name, false), rest)

theorem afterKeyPart_keeps {name text rest : List Char} {part : String × Bool}
    (found : afterKeyPart name text = some (part, rest)) : rest.length ≤ text.length := by
  have blanks := length_skipBlanks_le text
  unfold afterKeyPart at found
  split at found
  next rest dotted =>
    cases found
    have more := length_skipBlanks_le rest
    rw [dotted, List.length_cons] at blanks
    omega
  next =>
    cases found
    exact blanks

/-- A key, with the blanks after it. -/
def key : Reader Key :=
  (Reader.chain (simpleKey.followed afterKeyPart afterKeyPart_keeps)).followed
    (fun parts text => (Key.ofParts? parts).map fun key => (key, text))
    (fun found => by
      obtain ⟨_, _, equal⟩ := Option.map_eq_some_iff.mp found
      cases equal
      exact Nat.le_refl _)

/-- How items are set off from each other and from the brackets around them. -/
structure Brackets where
  close : Char
  space : List Char → List Char
  lastComma : Bool
  space_keeps : ∀ text, (space text).length ≤ text.length

def squareBrackets : Brackets := ⟨']', skipTrivia false, true, length_skipTrivia_le false⟩

def braces : Brackets := ⟨'\x7d', skipBlanks, false, length_skipBlanks_le⟩

/-- After an item comes a comma or the closing bracket. -/
def afterItem {α : Type} (brackets : Brackets) (item : α) (text : List Char) :
    Option ((α × Bool) × List Char) :=
  match brackets.space text with
  | [] => none
  | c :: rest =>
      if c = brackets.close then some ((item, false), rest)
      else if c = ',' then
        match brackets.space rest with
        | [] => none
        | next :: others =>
            if brackets.lastComma ∧ next = brackets.close then some ((item, false), others)
            else some ((item, true), next :: others)
      else none

theorem afterItem_keeps {α : Type} {brackets : Brackets} {item : α} {text rest : List Char}
    {piece : α × Bool} (found : afterItem brackets item text = some (piece, rest)) :
    rest.length ≤ text.length := by
  have space := brackets.space_keeps text
  unfold afterItem at found
  split at found
  next => cases found
  next c others spaced =>
    have more := brackets.space_keeps others
    rw [spaced, List.length_cons] at space
    split at found
    · cases found
      omega
    · split at found
      · split at found
        next => cases found
        next next after spacedAgain =>
          rw [spacedAgain, List.length_cons] at more
          split at found
          · cases found
            omega
          · cases found
            rw [List.length_cons]
            omega
      · cases found

/-- Items after an opening bracket, up to the closing one. -/
def readItems {α : Type} (brackets : Brackets) (item : Reader α) (text : List Char) :
    Option (List α × List Char) :=
  match brackets.space text with
  | [] => none
  | c :: rest =>
      if c = brackets.close then some ([], rest)
      else (Reader.chain (item.followed (afterItem brackets) afterItem_keeps)).read (c :: rest)

def items {α : Type} (brackets : Brackets) (item : Reader α) : Reader (List α) where
  read := readItems brackets item
  shortens {text} _ _ found := by
    have space := brackets.space_keeps text
    unfold readItems at found
    split at found
    next => cases found
    next c others spaced =>
      rw [spaced] at space
      split at found
      · cases found
        exact space
      · exact Nat.lt_of_lt_of_le (Reader.shortens _ found) space

/-- After a key come an equals sign and the value. -/
def afterKey (value : Reader Value) (key : Key) (text : List Char) :
    Option ((Key × Value) × List Char) := do
  let rest ← expect '=' text
  (value.read (skipBlanks rest)).map fun (value, rest) => ((key, value), rest)

theorem afterKey_keeps {value : Reader Value} {key : Key} {text rest : List Char}
    {assigned : Key × Value} (found : afterKey value key text = some (assigned, rest)) :
    rest.length ≤ text.length := by
  obtain ⟨left, equals, assigns⟩ := Option.bind_eq_some_iff.mp found
  obtain ⟨⟨value, last⟩, read, equal⟩ := Option.map_eq_some_iff.mp assigns
  cases equal
  have shorter := expect_shortens equals
  have blanks := length_skipBlanks_le left
  have shortest := Reader.shortens _ read
  omega

def assignment (value : Reader Value) : Reader (Key × Value) :=
  key.followed (afterKey value) afterKey_keeps

def assignAll (assignments : List (Key × Value)) : Option Entries :=
  assignments.foldlM (fun entries (key, value) => entries.assign key.path key.name value .inline) []

def readFlatValue (text : List Char) : Option (Value × List Char) :=
  match string.read text with
  | some (characters, rest) => some (.string (String.ofList characters), rest)
  | none => (plain.read text).map fun (kind, rest) => (.plain kind, rest)

/-- A value without other values in it. -/
def flatValue : Reader Value where
  read := readFlatValue
  shortens found := by
    unfold readFlatValue at found
    split at found
    next read =>
      cases found
      exact string.shortens read
    next => exact (plain.map Value.plain).shortens found

def readValue (inner : Reader Value) : List Char → Option (Value × List Char)
  | '[' :: rest => ((items squareBrackets inner).map Value.array).read rest
  | '\x7b' :: rest =>
      ((items braces (assignment inner)).followed
        (fun assignments text =>
          (assignAll assignments).map fun entries => (.table .inline entries, text))
        (fun found => by
          obtain ⟨_, _, equal⟩ := Option.map_eq_some_iff.mp found
          cases equal
          exact Nat.le_refl _)).read rest
  | text => flatValue.read text

theorem readValue_shortens {inner : Reader Value} {text rest : List Char} {value : Value}
    (found : readValue inner text = some (value, rest)) : rest.length < text.length := by
  unfold readValue at found
  split at found
  · exact Nat.lt_succ_of_lt (Reader.shortens _ found)
  · exact Nat.lt_succ_of_lt (Reader.shortens _ found)
  · exact flatValue.shortens found

/-- Reads a value in which values nest no deeper than the given number. -/
def value : Nat → Reader Value
  | 0 => flatValue
  | depth + 1 => ⟨readValue (value depth), readValue_shortens⟩

inductive Line where
  | blank
  | table (key : Key)
  | element (key : Key)
  | assignment (key : Key) (value : Value)

def lineValue : Reader Value := value (nestingLimit - 1)

/-- What a line says, without its end. -/
def readLineContent : List Char → Option (Line × List Char)
  | '[' :: '[' :: rest => do
      let (key, rest) ← key.read (skipBlanks rest)
      let rest ← expect ']' rest
      let rest ← expect ']' rest
      return (.element key, rest)
  | '[' :: rest => do
      let (key, rest) ← key.read (skipBlanks rest)
      let rest ← expect ']' rest
      return (.table key, rest)
  | text =>
      if (endOfLine text).isSome then some (.blank, text)
      else ((assignment lineValue).map fun (key, value) => Line.assignment key value).read text

theorem readLineContent_keeps {text rest : List Char} {line : Line}
    (found : readLineContent text = some (line, rest)) : rest.length ≤ text.length := by
  unfold readLineContent at found
  split at found
  next others =>
    obtain ⟨⟨name, afterName⟩, named, closes⟩ := Option.bind_eq_some_iff.mp found
    obtain ⟨afterFirst, first, closesAgain⟩ := Option.bind_eq_some_iff.mp closes
    obtain ⟨afterSecond, second, equal⟩ := Option.bind_eq_some_iff.mp closesAgain
    cases equal
    have blanks := length_skipBlanks_le others
    have shorter := key.shortens named
    have one := expect_shortens first
    have two := expect_shortens second
    simp only [List.length_cons]
    omega
  next others _ =>
    obtain ⟨⟨name, afterName⟩, named, closes⟩ := Option.bind_eq_some_iff.mp found
    obtain ⟨afterFirst, first, equal⟩ := Option.bind_eq_some_iff.mp closes
    cases equal
    have blanks := length_skipBlanks_le others
    have shorter := key.shortens named
    have one := expect_shortens first
    simp only [List.length_cons]
    omega
  next =>
    split at found
    · cases found
      exact Nat.le_refl _
    · exact Nat.le_of_lt (Reader.shortens _ found)

/-- A line with its end. Nothing is no line. -/
def readLine (text : List Char) : Option ((Line × Bool) × List Char) :=
  if text.isEmpty then none
  else do
    let (line, rest) ← readLineContent (skipBlanks text)
    let rest ← endOfLine rest
    return ((line, !rest.isEmpty), rest)

def line : Reader (Line × Bool) where
  read := readLine
  shortens {text} _ _ found := by
    unfold readLine at found
    split at found
    next => cases found
    next nonempty =>
      obtain ⟨⟨content, afterContent⟩, read, ends⟩ := Option.bind_eq_some_iff.mp found
      obtain ⟨last, ended, equal⟩ := Option.bind_eq_some_iff.mp ends
      cases equal
      have blanks := length_skipBlanks_le text
      have kept := readLineContent_keeps read
      have positive : 0 < text.length := List.length_pos_iff.mpr (by simpa using nonempty)
      rcases endOfLine_shortens ended with rfl | shorter
      · exact positive
      · omega

/-- A mark of the encoding at the very beginning says nothing. -/
def skipMark : List Char → List Char
  | '\ufeff' :: rest => rest
  | text => text

def lines? (text : List Char) : Option (List Line) :=
  match skipMark text with
  | [] => some []
  | text => ((Reader.chain line).read text).map (·.1)

/-- The entries so far, and the path of the table that lines add to. -/
structure Draft where
  entries : Entries := []
  current : List String := []

def Draft.carryOut (draft : Draft) : Line → Option Draft
  | .blank => some draft
  | .table key => do
      let entries ← draft.entries.openTable key.path key.name .header
      return { entries, current := key.parts }
  | .element key => do
      let entries ← draft.entries.openElement key.path key.name .header
      return { entries, current := key.parts }
  | .assignment key value => do
      let entries ← draft.entries.alter false
        (fun origin entries => entries.assign key.path key.name value origin)
        draft.current .header
      return { draft with entries }

def document? (text : String) : Option Entries := do
  let lines ← lines? text.toList
  let draft ← lines.foldlM Draft.carryOut {}
  return draft.entries

end VersionStamp.Toml
