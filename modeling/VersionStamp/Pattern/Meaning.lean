import VersionStamp.Pattern.Expression

/-! From the written form of a pattern to what it matches.

Only ASCII is known by properties, so that what would need those of other characters is a
failure unless a flag asks for ASCII.
-/

namespace VersionStamp.Pattern

/-- The flags that hold for a part. -/
structure Flags where
  ignoreCase : Bool := false
  multiLine : Bool := false
  dotMatchesLineFeed : Bool := false
  unicode : Bool := true
  carriageReturns : Bool := false
deriving Repr, DecidableEq

namespace Flags

def set (flags : Flags) : Flag × Bool → Flags
  | (.ignoreCase, value) => { flags with ignoreCase := value }
  | (.multiLine, value) => { flags with multiLine := value }
  | (.dotMatchesLineFeed, value) => { flags with dotMatchesLineFeed := value }
  | (.unicode, value) => { flags with unicode := value }
  | (.carriageReturns, value) => { flags with carriageReturns := value }
  | (.swapGreed, _) | (.ignoreBlanks, _) => flags

def change (flags : Flags) (change : FlagChange) : Flags := change.foldl set flags

end Flags

abbrev Meant := Except Failure

def refuse {α : Type} (reason : Reason) (span : Span) : Meant α := throw { reason, span }

namespace Literal

/-- A byte beyond ASCII is no character by itself. -/
def check (flags : Flags) (part : Literal) : Meant Unit :=
  if !flags.unicode && part.isByte && 0x80 ≤ part.char.toNat then refuse .strayByte part.span
  else pure ()

/-- The set of a character, with its other case if that makes no difference. -/
def set (flags : Flags) (part : Literal) : Meant CharacterSet := do
  part.check flags
  if !flags.ignoreCase then return .singleton part.char
  else if flags.unicode then refuse .wideCase part.span
  else return (CharacterSet.singleton part.char).withBothCases

/-- A character in brackets, of which only ASCII is left without the characters of
other scripts. -/
def member (flags : Flags) (part : Literal) : Meant Char := do
  part.check flags
  if !flags.unicode && 0x80 ≤ part.char.toNat then refuse .wideCharacter part.span
  else return part.char

end Literal

def Shorthand.set (flags : Flags) (part : Shorthand) : Meant CharacterSet :=
  if flags.unicode then refuse .wideClass part.span
  else if part.negated then refuse .strayByte part.span
  else return part.ascii

/-- The form in which names of properties are compared. -/
def comparable (name : String) : List Char :=
  let characters := name.toList
  let characters := match characters with
    | first :: second :: rest =>
        if first.toLower = 'i' ∧ second.toLower = 's' then rest else characters
    | _ => characters
  (characters.filter fun c => c.toNat < 0x80 && !" _-".toList.contains c).map Char.toLower

/-- Names of properties that are also values of one. -/
def valueNames : List (List Char) := [['c', 'f'], ['s', 'c'], ['l', 'c']]

/-- No property is known. -/
def Property.set (flags : Flags) (part : Property) : Meant CharacterSet :=
  if !flags.unicode then refuse .wideCharacter part.span
  else if part.name.any fun name => valueNames.contains (comparable name) then
    refuse .propertyValueUnknown part.span
  else refuse .propertyUnknown part.span

/-- The characters of a set in either case, and then perhaps those outside of it. -/
def folded (flags : Flags) (isClosed negated : Bool) (span : Span) (set : CharacterSet) :
    Meant CharacterSet :=
  if flags.unicode then
    if flags.ignoreCase && !isClosed then refuse .wideCase span
    else return if negated then set.complement else set
  else if negated then refuse .strayByte span
  else return if flags.ignoreCase then set.withBothCases else set

namespace ClassExpression

/-- Whether a class names no characters of its own. -/
def isClosed : ClassExpression → Bool
  | .literal _ | .range _ _ => false
  | .union content _ => content.isClosed
  | .beside first second => first.isClosed && second.isClosed
  | _ => true

def set (flags : Flags) : ClassExpression → Meant CharacterSet
  | .nothing _ => return .empty
  | .literal part => return .singleton (← part.member flags)
  | .range first last => do
      let low ← first.member flags
      let high ← last.member flags
      return CharacterSet.empty.insert low high
  | .named set negated span => folded flags false negated span set
  | .shorthand part => part.set flags
  | .property part => part.set flags
  | .bracketed content negated span => do
      folded flags content.isClosed negated span (← content.set flags)
  | .union content _ => content.set flags
  | .beside first second => do
      let first ← first.set flags
      return first.union (← second.set flags)
  | .combined operation left right _ => do
      let leftSet ← left.set flags
      let rightSet ← right.set flags
      let rightSet ← folded flags right.isClosed false right.span rightSet
      let leftSet ← folded flags left.isClosed false left.span leftSet
      return match operation with
        | .intersection => leftSet.intersection rightSet
        | .difference => leftSet.difference rightSet
        | .symmetricDifference => leftSet.symmetricDifference rightSet

end ClassExpression

/-- What a dot matches. -/
def dotSet (flags : Flags) (span : Span) : Meant CharacterSet :=
  if !flags.unicode then refuse .strayByte span
  else if flags.dotMatchesLineFeed then return CharacterSet.empty.complement
  else
    let feed := CharacterSet.singleton '\n'
    return (if flags.carriageReturns then feed.insert '\r' '\r' else feed).complement

/-- Beginnings and ends of lines are those of the text unless a flag says otherwise. -/
def Assertion.under (flags : Flags) : Assertion → Assertion
  | .lineStart =>
      if !flags.multiLine then .textStart
      else if flags.carriageReturns then .returnedLineStart
      else .lineStart
  | .lineEnd =>
      if !flags.multiLine then .textEnd
      else if flags.carriageReturns then .returnedLineEnd
      else .lineEnd
  | assertion => assertion

namespace Expression

/-- What a part matches under some flags, and the flags after it. -/
def meaning (flags : Flags) : Expression → Meant (Pattern × Flags)
  | .nothing _ => return (.empty, flags)
  | .flags change _ => return (.empty, flags.change change)
  | .literal part => return (.one (← part.set flags), flags)
  | .dot span => return (.one (← dotSet flags span), flags)
  | .assertion asked _ => return (.look (asked.under flags) (!flags.unicode), flags)
  | .shorthand part => return (.one (← part.set flags), flags)
  | .property part => return (.one (← part.set flags), flags)
  | .bracketed content negated span => do
      let set ← folded flags content.isClosed negated span (← content.set flags)
      return (.one set, flags)
  | .repeated content low high _ => do
      let (pattern, flags) ← content.meaning flags
      return (repetition pattern low high, flags)
  | .group content change _ => do
      let (pattern, _) ← content.meaning (flags.change change)
      return (pattern, flags)
  | .sequence content _ | .choice content _ => content.meaning flags
  | .beside first second => do
      let (first, flags) ← first.meaning flags
      let (second, flags) ← second.meaning flags
      return (.both first second, flags)
  | .otherwise first second => do
      let (first, flags) ← first.meaning flags
      let (second, flags) ← second.meaning flags
      return (.either first second, flags)

end Expression

end VersionStamp.Pattern
