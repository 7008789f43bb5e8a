/-! Lines that keep their terminators.

A line ends after a line feed or at the end of the text, so the lines of a text
concatenate to the text, and the empty text has no line.
-/

namespace VersionStamp.Text

def splitLines : List Char → List (List Char)
  | [] => []
  | c :: rest =>
      if c = '\n' then [c] :: splitLines rest
      else
        match splitLines rest with
        | [] => [[c]]
        | line :: others => (c :: line) :: others

@[simp] theorem flatten_splitLines (text : List Char) : (splitLines text).flatten = text := by
  induction text with
  | nil => rfl
  | cons c rest ih =>
      unfold splitLines
      split
      · simp [ih]
      · cases lines : splitLines rest <;> simp_all

/-- Whether `tag` stands somewhere in `text`. -/
def occursIn (tag : List Char) : List Char → Bool
  | [] => tag.isEmpty
  | c :: rest => tag.isPrefixOf (c :: rest) || occursIn tag rest

theorem occursIn_iff {tag text : List Char} : occursIn tag text = true ↔ tag <:+: text := by
  induction text with
  | nil => simp [occursIn]
  | cons c rest ih => simp [occursIn, ih, List.infix_cons_iff]

/-- A line without its line feed and a carriage return before that. -/
def withoutTerminator (line : List Char) : List Char :=
  if ['\r', '\n'].isSuffixOf line then line.take (line.length - 2)
  else if ['\n'].isSuffixOf line then line.dropLast
  else line

/-- The line feed of a line, with the carriage return before it if there is one.
A last line without a terminator counts as ended by a line feed. -/
def terminator (line : List Char) : List Char :=
  if ['\r', '\n'].isSuffixOf line then ['\r', '\n'] else ['\n']

end VersionStamp.Text
