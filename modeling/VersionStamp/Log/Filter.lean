import VersionStamp.Log.Record
import VersionStamp.Pattern.OfText
import VersionStamp.Text.Blank

/-! Which records are shown.

A filter is a list of directives, each a limit for the origins whose names begin with
some text, or for all. The directive with the longest such text decides. Besides, a
filter may ask for a pattern in the texts of the records.
-/

namespace VersionStamp.Log

/-- The limit is a verbosity; nothing is as verbose as zero. -/
structure Directive where
  name : Option String
  limit : Nat
deriving Repr, DecidableEq

structure Filter where
  directives : List Directive
  pattern : Option Pattern := none

def fullVerbosity : Nat := Level.trace.verbosity

def lowerCase (text : String) : List Char := text.toList.map Char.toLower

/-- The verbosity that a text names, in letters of either case. -/
def limit? (text : String) : Option Nat :=
  if lowerCase text = ['o', 'f', 'f'] then some 0
  else (Level.all.find? fun level => lowerCase level.name == lowerCase text).map Level.verbosity

namespace Directive

/-- Reads a single item of a specification; an item that makes no sense is given back
with the part that is to blame. -/
def ofItem (item : String) : Except String Directive :=
  match item.splitOn "=" with
  | [text] =>
      match limit? text with
      | some limit => .ok { name := none, limit }
      | none => .ok { name := some text, limit := fullVerbosity }
  | [name, text] =>
      let text := Text.trim text
      if text.isEmpty then .ok { name := some name, limit := fullVerbosity }
      else
        match limit? text with
        | some limit => .ok { name := some name, limit }
        | none => .error text
  | _ => .error item

def nameSize (directive : Directive) : Nat := (directive.name.getD "").utf8ByteSize

def covers (directive : Directive) (origin : Origin) : Bool :=
  match directive.name with
  | none => true
  | some name => name.toList.isPrefixOf origin.name.toList

end Directive

namespace Filter

/-- A directive takes the place of an earlier one with the same name. -/
def insert (directives : List Directive) (directive : Directive) : List Directive :=
  if directives.any (·.name == directive.name) then
    directives.map fun other => if other.name = directive.name then directive else other
  else directives ++ [directive]

/-- Only errors. -/
def quiet : List Directive := [{ name := none, limit := Level.error.verbosity }]

def items (text : String) : List String :=
  ((text.splitOn ",").map Text.trim).filter (!·.isEmpty)

/-- The directives of the items that make sense. -/
def directivesOf (text : String) : List Directive :=
  (items text).foldl
    (fun directives item =>
      match Directive.ofItem item with
      | .ok directive => insert directives directive
      | .error _ => directives)
    []

def orQuiet (directives : List Directive) : List Directive :=
  if directives.isEmpty then quiet else directives

/-- Reads a specification: items between commas, and perhaps a pattern after a slash.
Without any directive only errors are shown. -/
def ofText (text : String) : Filter :=
  match text.splitOn "/" with
  | [items] => { directives := orQuiet (directivesOf items) }
  | [items, pattern] =>
      { directives := orQuiet (directivesOf items), pattern := (Pattern.ofText pattern).toOption }
  | _ => { directives := quiet }

def itemRemarks (text : String) : List String :=
  (items text).filterMap fun item =>
    match Directive.ofItem item with
    | .ok _ => none
    | .error blamed => some ("invalid logging spec '" ++ blamed ++ "'")

def patternRemarks (pattern : String) : List String :=
  match Pattern.ofText pattern with
  | .ok _ => []
  | .error refusal => ["invalid regex filter - " ++ refusal.message pattern]

/-- A remark on each part of a specification that makes no sense. -/
def remarks (text : String) : List String :=
  let remarks := match text.splitOn "/" with
    | [items] => itemRemarks items
    | [items, pattern] => itemRemarks items ++ patternRemarks pattern
    | _ => ["invalid logging spec '" ++ text ++ "' (too many '/'s)"]
  remarks.map fun remark => "warning: " ++ remark ++ ", ignoring it"

/-- The last of the covering directives with the longest name. -/
def deciding (filter : Filter) (origin : Origin) : Option Directive :=
  (filter.directives.filter (·.covers origin)).foldl
    (fun best directive =>
      match best with
      | none => some directive
      | some best => if best.nameSize ≤ directive.nameSize then some directive else some best)
    none

def shows (filter : Filter) (record : Record) : Bool :=
  (filter.deciding record.origin).any (fun directive =>
    record.level.verbosity ≤ directive.limit) &&
    filter.pattern.all fun pattern => pattern.occursIn record.text

end Filter

/-- The specification that holds where the environment gives none. -/
def standardSpecification : String := "info"

def Record.line (record : Record) : String :=
  "[" ++ record.level.name ++ "] " ++ record.text

end VersionStamp.Log
