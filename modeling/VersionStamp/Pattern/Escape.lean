import VersionStamp.Pattern.Cursor
import VersionStamp.Pattern.Expression

/-! What follows a backslash. -/

namespace VersionStamp.Pattern

def asciiSet (ranges : List (Char × Char)) : CharacterSet := .ofRanges ranges

def digitSet : CharacterSet := asciiSet [('0', '9')]

def blankSet : CharacterSet := asciiSet [('\t', '\r'), (' ', ' ')]

def wordSet : CharacterSet := asciiSet [('0', '9'), ('A', 'Z'), ('_', '_'), ('a', 'z')]

/-- Any ASCII character may follow a backslash for itself, except those whose escapes have,
or may come to have, another meaning. -/
def isEscapable (c : Char) : Bool :=
  c.toNat < 0x80 && !c.isAlphanum && c ≠ '<' && c ≠ '>'

/-- The characters that some letters stand for. -/
def namedCharacter? : Char → Option Char
  | 'a' => some '\x07'
  | 'f' => some '\x0c'
  | 't' => some '\t'
  | 'n' => some '\n'
  | 'r' => some '\r'
  | 'v' => some '\x0b'
  | _ => none

def assertion? : Char → Option Assertion
  | 'A' => some .textStart
  | 'z' => some .textEnd
  | 'B' => some .noWordBoundary
  | '<' => some .wordStart
  | '>' => some .wordEnd
  | _ => none

def shorthand? : Char → Option (CharacterSet × Bool)
  | 'd' => some (digitSet, false)
  | 'D' => some (digitSet, true)
  | 's' => some (blankSet, false)
  | 'S' => some (blankSet, true)
  | 'w' => some (wordSet, false)
  | 'W' => some (wordSet, true)
  | _ => none

def hexValue? (c : Char) : Option Nat :=
  if c.isDigit then some (c.toNat - '0'.toNat)
  else if 'a' ≤ c ∧ c ≤ 'f' then some (c.toNat - 'a'.toNat + 10)
  else if 'A' ≤ c ∧ c ≤ 'F' then some (c.toNat - 'A'.toNat + 10)
  else none

def hexNumber (digits : List Nat) : Nat := digits.foldl (fun number digit => number * 16 + digit) 0

/-- The character with a number, if there is one. -/
def character? (number : Nat) : Option Char :=
  if number.isValidChar then some (Char.ofNat number) else none

namespace Scan

def hexDigit : Scan Nat := do
  match (← next?).bind hexValue? with
  | some digit => return digit
  | none => fail .escapeHexInvalidDigit (← nextSpan)

/-- The digits of a number that has a fixed count of them. -/
def hexDigits : Nat → Scan (List Nat)
  | 0 => return []
  | count + 1 => do
      let digit ← hexDigit
      if !(← advance) && count ≠ 0 then fail .escapeUnfinished (.point (← here))
      return digit :: (← hexDigits count)

def fixedHex (start : Position) (count : Nat) : Scan Literal := do
  let first ← here
  let digits ← hexDigits count
  match character? (hexNumber digits) with
  | none => fail .escapeHexInvalid (← spanFrom first)
  | some char => return { char, span := ← spanFrom start, isByte := count = 2 }

def bracedHex (start : Position) : Scan Literal := do
  let brace ← nextSpan
  let digits ← many do
    if !(← advance) || (← next?) = some '\x7d' then return none
    else return some (← hexDigit)
  if ← isAtEnd then fail .escapeUnfinished (← spanFrom brace.start)
  let last ← here
  let _ ← advance
  if digits.isEmpty then fail .escapeHexEmpty (← spanFrom brace.start)
  match character? (hexNumber digits) with
  | none => fail .escapeHexInvalid ⟨brace.stop, last⟩
  | some char => return { char, span := ← spanFrom start }

/-- A character given by its number, after the letter that says how long the number is. -/
def hex (start : Position) (count : Nat) : Scan Literal := do
  if !(← advance) then fail .escapeUnfinished (.point (← here))
  if (← next?) = some '\x7b' then bracedHex start else fixedHex start count

/-- A property in braces. A name with a value is not looked up. -/
def bracedProperty (start : Position) : Scan Property := do
  let name ← many do
    if !(← advance) || (← next?) = some '\x7d' then return none else next?
  if ← isAtEnd then fail .escapeUnfinished (.point (← here))
  bump
  let span ← spanFrom start
  let isPlain := !name.any fun c => c = ':' || c = '='
  return { name := if isPlain then some (String.ofList name) else none, span }

def property (start : Position) : Scan Property := do
  if !(← advance) then fail .escapeUnfinished (.point (← here))
  match ← next? with
  | some '\x7b' => bracedProperty start
  | some '\\' => fail .propertyInvalid (← nextSpan)
  | letter =>
      let _ ← advance
      return { name := letter.map Char.toString, span := ← spanFrom start }

def boundaryNames : List (String × Assertion) :=
  [("start", .wordStart), ("end", .wordEnd), ("start-half", .wordStartHalf),
    ("end-half", .wordEndHalf)]

def isBoundaryLetter (c : Char) : Bool := c.isAlpha || c = '-'

/-- A special boundary in braces, unless these turn out to hold a count. -/
def boundary? (start : Position) : Scan (Option Assertion) := do
  let before ← get
  if !(← advance) then fail .boundaryUnfinished (← spanFrom start)
  let first ← here
  if !(← next?).any isBoundaryLetter then
    set before
    return none
  let name ← many do
    match ← next? with
    | some c => if isBoundaryLetter c then let _ ← advance; return some c else return none
    | none => return none
  if (← next?) ≠ some '\x7d' then fail .boundaryUnclosed (← spanFrom before.position)
  let last ← here
  bump
  match boundaryNames.lookup (String.ofList name) with
  | some assertion => return some assertion
  | none => fail .boundaryUnrecognized ⟨first, last⟩

/-- The boundary of a word, after its letter. -/
def wordBoundary (start : Position) : Scan Expression := do
  let plain ← spanFrom start
  if (← next?) = some '\x7b' then
    match ← boundary? start with
    | some assertion => return .assertion assertion (← spanFrom start)
    | none => return .assertion .wordBoundary plain
  else return .assertion .wordBoundary plain

/-- What a character after a backslash means that needs nothing more. -/
def shortEscape (c : Char) (span : Span) : Scan Expression :=
  if isEscapable c then return .literal { char := c, span }
  else
    match shorthand? c, namedCharacter? c, assertion? c with
    | some (ascii, negated), _, _ => return .shorthand { ascii, negated, span }
    | _, some char, _ => return .literal { char, span }
    | _, _, some assertion => return .assertion assertion span
    | _, _, _ => fail .escapeUnrecognized span

def escape : Scan Expression := do
  let start ← here
  bump
  match ← next? with
  | none => fail .escapeUnfinished (← spanFrom start)
  | some 'x' => return .literal (← hex start 2)
  | some 'u' => return .literal (← hex start 4)
  | some 'U' => return .literal (← hex start 8)
  | some 'p' => return .property (← property start)
  | some 'P' => return .property (← property start)
  | some c =>
      bump
      let span ← spanFrom start
      if c.isDigit then fail .backreference span
      else if c = 'b' then wordBoundary start
      else shortEscape c span

end Scan

end VersionStamp.Pattern
