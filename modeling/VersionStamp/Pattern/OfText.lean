import VersionStamp.Pattern.Meaning
import VersionStamp.Pattern.Reading
import VersionStamp.Text.Lines

/-! Patterns from texts.

Where a text is no pattern, the place of the failure is shown within it.
-/

namespace VersionStamp

namespace Pattern

def spaces (count : Nat) : List Char := List.replicate count ' '

/-- A line of a pattern, with its number, from one on, where there is more than one. -/
structure Margin where
  /-- The number of digits of the last line's number; none for a single line. -/
  digits : Nat

namespace Margin

def ofPattern (pattern : List Char) : Margin :=
  let lines := (Text.splitLines pattern).length
  let count := if pattern.getLast? = some '\n' then lines + 1 else lines
  { digits := if count ≤ 1 then 0 else (Nat.toDigits 10 count).length }

def width (margin : Margin) : Nat := if margin.digits = 0 then 4 else margin.digits + 2

def text (margin : Margin) (number : Nat) : List Char :=
  if margin.digits = 0 then spaces 4
  else
    let digits := Nat.toDigits 10 number
    spaces (margin.digits - digits.length) ++ digits ++ [':', ' ']

end Margin

/-- Carets below the places of a line, of which even one without characters has one. -/
def carets (column : Nat) : List Span → List Char
  | [] => []
  | span :: others =>
      let start := span.start.column - 1
      let count := max 1 (span.stop.column - span.start.column)
      spaces (start - column) ++ List.replicate count '^' ++
        carets (max column start + count) others

namespace Failure

def spans (failure : Failure) : List Span :=
  match failure.earlier with
  | none => [failure.span]
  | some earlier =>
      if failure.span.isBefore earlier then [failure.span, earlier] else [earlier, failure.span]

/-- A line of the pattern, and carets below it if something is wrong there. -/
def shownLine (failure : Failure) (margin : Margin) (number : Nat) (line : List Char) :
    List Char :=
  let marked := failure.spans.filter fun span => span.isOnOneLine && span.start.line = number
  let below :=
    if marked.isEmpty then [] else spaces margin.width ++ carets 0 marked ++ ['\n']
  margin.text number ++ Text.withoutTerminator line ++ ['\n'] ++ below

def shownLines (failure : Failure) (margin : Margin) (number : Nat) :
    List (List Char) → List Char
  | [] => []
  | line :: others =>
      failure.shownLine margin number line ++ failure.shownLines margin (number + 1) others

def lineNote (span : Span) : String :=
  "on line " ++ toString span.start.line ++ " (column " ++ toString span.start.column ++
    ") through line " ++ toString span.stop.line ++ " (column " ++
    toString (span.stop.column - 1) ++ ")\n"

/-- The report on a failure, with the pattern in which it was found. -/
def report (failure : Failure) (pattern : String) : String :=
  let characters := pattern.toList
  let shown := String.ofList
    (failure.shownLines (.ofPattern characters) 1 (Text.splitLines characters))
  let divider := String.ofList (List.replicate 79 '~') ++ "\n"
  let notes := String.join ((failure.spans.filter (!·.isOnOneLine)).map lineNote)
  let body := if characters.contains '\n' then divider ++ shown ++ divider ++ notes else shown
  "regex parse error:\n" ++ body ++ "error: " ++ failure.reason.message

end Failure

/-- Why no pattern is made of a text. -/
inductive Refusal where
  | misread (failure : Failure)
  | tooLarge
  /-- It speaks of words of other than ASCII characters. -/
  | wideWords

def Refusal.message (pattern : String) : Refusal → String
  | .misread failure => failure.report pattern
  | .tooLarge => "Compiled regex exceeds size limit of " ++ toString weightLimit ++ " bytes."
  | .wideWords => "error building NFA"

def ofText (text : String) : Except Refusal Pattern :=
  match Expression.ofText text >>= Expression.meaning {} with
  | .error failure => .error (.misread failure)
  | .ok (pattern, _) =>
      if weightLimit < pattern.weight then .error .tooLarge
      else if pattern.isPlain then .ok pattern
      else .error .wideWords

end Pattern

end VersionStamp
