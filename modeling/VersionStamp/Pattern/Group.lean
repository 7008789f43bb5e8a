import VersionStamp.Pattern.Cursor
import VersionStamp.Pattern.Expression
import VersionStamp.Text.Quoted

/-! How a group begins. -/

namespace VersionStamp.Pattern

def flag? : Char → Option Flag
  | 'i' => some .ignoreCase
  | 'm' => some .multiLine
  | 's' => some .dotMatchesLineFeed
  | 'U' => some .swapGreed
  | 'u' => some .unicode
  | 'R' => some .carriageReturns
  | 'x' => some .ignoreBlanks
  | _ => none

/-- Flags as they are written, each with its place; a hyphen is no flag. -/
abbrev WrittenFlags := List (Option Flag × Span)

/-- The flags after a hyphen are unset. -/
def changeOf (isSet : Bool) : WrittenFlags → FlagChange
  | [] => []
  | (none, _) :: rest => changeOf false rest
  | (some flag, _) :: rest => (flag, isSet) :: changeOf isSet rest

/-- A name begins with a letter or an underscore. -/
def isNameCharacter (isFirst : Bool) (c : Char) : Bool :=
  c = '_' || c.isAlpha || (0x80 ≤ c.toNat && !Text.isInvisible c) ||
    (!isFirst && (c.isDigit || c = '.' || c = '[' || c = ']'))

/-- What an opening parenthesis turns out to begin. -/
inductive Opening where
  | flags (change : FlagChange) (span : Span)
  | group (change : FlagChange) (span : Span)

namespace Scan

def writtenFlag (c : Char) : Scan (Option Flag) := do
  if c = '-' then return none
  match flag? c with
  | some flag => return some flag
  | none => fail .flagUnrecognized (← nextSpan)

/-- The flags up to a colon or a closing parenthesis. -/
def writtenFlags (earlier : WrittenFlags) : Nat → Scan WrittenFlags
  | 0 => return earlier
  | fuel + 1 => do
      match ← next? with
      | none | some ':' | some ')' => return earlier
      | some c =>
          let span ← nextSpan
          let flag ← writtenFlag c
          match earlier.lookup flag with
          | some place =>
              let reason := if flag.isNone then .flagRepeatedNegation else .flagDuplicate
              throw { reason, span, earlier := some place }
          | none =>
              bump
              if ← isAtEnd then fail .flagUnfinished (.point (← here))
              writtenFlags (earlier ++ [(flag, span)]) fuel

/-- A parenthesis with a question mark that names no group. -/
def flagsOrGroup (opening inner : Span) : Scan Opening := do
  if ← isAtEnd then fail .groupUnclosed opening
  let flags ← writtenFlags [] ((← rest).length + 1)
  match flags.getLast? with
  | some (none, span) => fail .flagDanglingNegation span
  | _ => pure ()
  let closing := (← next?) = some ')'
  bump
  if closing then
    if flags.isEmpty then fail .repetitionMissing inner
    return .flags (changeOf true flags) (← spanFrom opening.start)
  else return .group (changeOf true flags) opening

/-- The rest of a name, up to the closing angle. -/
def nameCharacters (isFirst : Bool) : Nat → Scan (List Char)
  | 0 => return []
  | fuel + 1 => do
      match ← next? with
      | none | some '>' => return []
      | some c =>
          if !isNameCharacter isFirst c then fail .groupNameInvalid (← nextSpan)
          bump
          return c :: (← nameCharacters false fuel)

def groupName : Scan Unit := do
  if ← isAtEnd then fail .groupNameUnfinished (.point (← here))
  let start ← here
  let name ← nameCharacters true ((← rest).length + 1)
  let span ← spanFrom start
  if ← isAtEnd then fail .groupNameUnfinished (.point (← here))
  bump
  if name.isEmpty then fail .groupNameEmpty (.point start)
  match (← get).names.lookup name with
  | some place => throw { reason := .groupNameDuplicate, span, earlier := some place }
  | none => modify fun cursor => { cursor with names := (name, span) :: cursor.names }

/-- Goes past the first of some texts that comes next. -/
def bumpIfAny : List String → Scan Bool
  | [] => return false
  | text :: others => do
      if ← bumpIf text.toList then return true else bumpIfAny others

def opening : Scan Opening := do
  let span ← nextSpan
  bump
  bumpBlanks
  let inner : Span := .point (← here)
  if ← bumpIfAny ["?=", "?!", "?<=", "?<!"] then fail .lookAround (← spanFrom span.start)
  if ← bumpIfAny ["?P<", "?<"] then
    groupName
    return .group [] span
  else if ← bumpIf ['?'] then flagsOrGroup span inner
  else return .group [] span

end Scan

end VersionStamp.Pattern
