import VersionStamp.Pattern.Escape

/-! Classes of characters in brackets. -/

namespace VersionStamp.Pattern

/-- The classes that have a name between colons. -/
def classNames : List (String × List (Char × Char)) :=
  [("alnum", [('0', '9'), ('A', 'Z'), ('a', 'z')]), ("alpha", [('A', 'Z'), ('a', 'z')]),
    ("ascii", [('\x00', '\x7f')]), ("blank", [('\t', '\t'), (' ', ' ')]),
    ("cntrl", [('\x00', '\x1f'), ('\x7f', '\x7f')]), ("digit", [('0', '9')]),
    ("graph", [('!', '~')]), ("lower", [('a', 'z')]), ("print", [(' ', '~')]),
    ("punct", [('!', '/'), (':', '@'), ('[', '`'), ('\x7b', '~')]),
    ("space", [('\t', '\r'), (' ', ' ')]), ("upper", [('A', 'Z')]),
    ("word", [('0', '9'), ('A', 'Z'), ('_', '_'), ('a', 'z')]),
    ("xdigit", [('0', '9'), ('A', 'F'), ('a', 'f')])]

/-- The items of a class so far, the last one first. -/
structure Items where
  span : Span
  items : List ClassExpression := []

namespace Items

def add (items : Items) (item : ClassExpression) : Items where
  span := ⟨if items.items.isEmpty then item.span.start else items.span.start, item.span.stop⟩
  items := item :: items.items

def expression (items : Items) : ClassExpression :=
  match items.items with
  | [] => .nothing items.span
  | [item] => item
  | last :: earlier =>
      .union (earlier.foldl (fun later item => .beside item later) last) items.span

end Items

/-- A bracket that is still open: what stands before it in the one around it, and an
operation whose left side has been read. -/
structure Bracket where
  outer : Items
  negated : Bool
  span : Span
  pending : Option (SetOperation × ClassExpression) := none

/-- The content of a bracket, given what was read last in it. -/
def Bracket.content (bracket : Bracket) (items : Items) : ClassExpression :=
  match bracket.pending with
  | none => items.expression
  | some (operation, left) =>
      let right := items.expression
      .combined operation left right ⟨left.span.start, right.span.stop⟩

namespace Scan

def unlessAtEnd (start : Position) : Scan Unit := do
  if !(← advance) then fail .classUnclosed (← spanFrom start)

/-- Hyphens at the beginning of a class stand for themselves. -/
def leadingHyphens (start : Position) : Scan (List Literal) := do
  many do
    if (← next?) = some '-' then
      let span ← nextSpan
      if !(← advance) then fail .classUnclosed (.point start)
      return some { char := '-', span }
    else return none

/-- The beginning of a class. A closing bracket that comes first stands for itself. -/
def openBracket (outer : Items) : Scan (Bracket × Items) := do
  let start ← here
  unlessAtEnd start
  let negated := (← next?) = some '^'
  if negated then unlessAtEnd start
  let nothing : Items := { span := .point (← here) }
  let hyphens ← leadingHyphens start
  let items := hyphens.foldl (fun items hyphen => items.add (.literal hyphen)) nothing
  if items.items.isEmpty && (← next?) = some ']' then
    let closing := .literal { char := ']', span := ← nextSpan }
    unlessAtEnd start
    return ({ outer, negated, span := ← spanFrom start }, items.add closing)
  return ({ outer, negated, span := ← spanFrom start }, items)

/-- A named class, if one comes next. Anything else is left to be read otherwise. -/
def namedClass? : Scan (Option ClassExpression) := do
  let before ← get
  if !(← bumpIf ['[', ':']) then return none
  let negated ← bumpIf ['^']
  let name := (← rest).takeWhile (· ≠ ':')
  name.forM fun _ => bump
  let isClosed ← bumpIf [':', ']']
  match classNames.lookup (String.ofList name), isClosed with
  | some ranges, true =>
      return some (.named (asciiSet ranges) negated (← spanFrom before.position))
  | _, _ =>
      set before
      return none

/-- A character or an escape within brackets. -/
def classPart : Scan Expression := do
  match ← next? with
  | some '\\' => escape
  | some c =>
      let span ← nextSpan
      bump
      return .literal { char := c, span }
  | none => return .nothing (.point (← here))

def classItem : Expression → Scan ClassExpression
  | .literal part => return .literal part
  | .shorthand part => return .shorthand part
  | .property part => return .property part
  | part => fail .classEscapeInvalid part.span

def boundary : Expression → Scan Literal
  | .literal part => return part
  | part => fail .classRangeLiteral part.span

/-- The character after the next one that means something. -/
def peek? : Scan (Option Char) := do
  let cursor ← get
  match cursor.rest with
  | [] => return none
  | _ :: rest =>
      let others := rest.dropWhile Text.isBlank
      let others := match others with
        | '#' :: comment => comment.dropWhile Text.isBlank
        | _ => others
      return if cursor.ignoresBlanks && !others.isEmpty then others.head? else rest.head?

/-- A range, or an item by itself. -/
def classRange (bracket : Bracket) : Scan ClassExpression := do
  let first ← classPart
  bumpBlanks
  if ← isAtEnd then fail .classUnclosed bracket.span
  let second ← peek?
  if (← next?) ≠ some '-' || second = some ']' || second = some '-' then classItem first
  else
    if !(← advance) then fail .classUnclosed bracket.span
    let last ← classPart
    let span : Span := ⟨first.span.start, last.span.stop⟩
    let first ← boundary first
    let last ← boundary last
    if last.char < first.char then fail .classRangeInvalid span
    return .range first last

/-- The operation that comes next, written by two characters. -/
def operation? : Scan (Option SetOperation) := do
  match ← rest with
  | '&' :: '&' :: _ => bump; bump; return some .intersection
  | '-' :: '-' :: _ => bump; bump; return some .difference
  | '~' :: '~' :: _ => bump; bump; return some .symmetricDifference
  | _ => return none

/-- Reads on within brackets, the innermost first, until the outermost is closed. -/
def brackets : Nat → Items → Bracket → List Bracket → Scan Expression
  | 0, _, bracket, _ => fail .classUnclosed bracket.span
  | fuel + 1, items, bracket, around => do
      bumpBlanks
      match ← next? with
      | none => fail .classUnclosed bracket.span
      | some '[' =>
          match ← namedClass? with
          | some item => brackets fuel (items.add item) bracket around
          | none =>
              let (inner, first) ← openBracket items
              brackets fuel first inner (bracket :: around)
      | some ']' =>
          bump
          let span ← spanFrom bracket.span.start
          let content := bracket.content items
          match around with
          | [] => return .bracketed content bracket.negated span
          | next :: others =>
              let item := .bracketed content bracket.negated span
              brackets fuel (bracket.outer.add item) next others
      | some _ =>
          match ← operation? with
          | some operation =>
              let left := bracket.content items
              let rest : Items := { span := .point (← here) }
              brackets fuel rest { bracket with pending := some (operation, left) } around
          | none =>
              let item ← classRange bracket
              brackets fuel (items.add item) bracket around

def bracketed : Scan Expression := do
  let nothing : Items := { span := .point (← here) }
  let fuel := (← rest).length + 1
  let (bracket, items) ← openBracket nothing
  brackets fuel items bracket []

end Scan

end VersionStamp.Pattern
