import VersionStamp.Pattern.Failure
import VersionStamp.Text.Blank

/-! Reading the text of a pattern from left to right. -/

namespace VersionStamp.Pattern

/-- How far a pattern has been read. -/
structure Cursor where
  rest : List Char
  position : Position := {}
  /-- Blanks and comments mean nothing. -/
  ignoresBlanks : Bool := false
  /-- The names of groups, and where they stand. -/
  names : List (List Char × Span) := []

/-- What reads a part of a pattern and moves on. -/
abbrev Scan := StateT Cursor (Except Failure)

/-- Goes past blanks, and past comments up to the ends of their lines. -/
def skipBlanks (inComment : Bool) (position : Position) : List Char → Position × List Char
  | [] => (position, [])
  | c :: rest =>
      if inComment then skipBlanks (c ≠ '\n') (position.after c) rest
      else if Text.isBlank c then skipBlanks false (position.after c) rest
      else if c = '#' then skipBlanks true (position.after c) rest
      else (position, c :: rest)

namespace Scan

def fail {α : Type} (reason : Reason) (span : Span) : Scan α := throw { reason, span }

def here : Scan Position := return (← get).position

/-- What is still to be read. -/
def rest : Scan (List Char) := return (← get).rest

def next? : Scan (Option Char) := return (← get).rest.head?

/-- The place of the next character. -/
def nextSpan : Scan Span := do
  let cursor ← get
  match cursor.rest with
  | [] => return .point cursor.position
  | c :: _ => return ⟨cursor.position, cursor.position.after c⟩

def spanFrom (start : Position) : Scan Span := return ⟨start, ← here⟩

def isAtEnd : Scan Bool := return (← get).rest.isEmpty

def bump : Scan Unit := modify fun cursor =>
  match cursor.rest with
  | [] => cursor
  | c :: rest => { cursor with rest, position := cursor.position.after c }

def bumpBlanks : Scan Unit := modify fun cursor =>
  if cursor.ignoresBlanks then
    let (position, rest) := skipBlanks false cursor.position cursor.rest
    { cursor with rest, position }
  else cursor

/-- Moves to the next character that means something, and gives whether there is one. -/
def advance : Scan Bool := do
  bump
  bumpBlanks
  return !(← isAtEnd)

/-- Goes past a text if that comes next. -/
def bumpIf (text : List Char) : Scan Bool := do
  if text.isPrefixOf (← rest) then
    text.forM fun _ => bump
    return true
  else return false

/-- Repeats a step until it gives nothing, at most as often as the number says. -/
def gather {α : Type} (step : Scan (Option α)) : Nat → Scan (List α)
  | 0 => return []
  | count + 1 => do
      match ← step with
      | none => return []
      | some item => return item :: (← gather step count)

/-- Repeats a step that moves on until it gives nothing. -/
def many {α : Type} (step : Scan (Option α)) : Scan (List α) := do
  gather step ((← rest).length + 1)

end Scan

end VersionStamp.Pattern
