import VersionStamp.Text.Lines

/-! Tagged lines.

A tagged line consists of a fixed tag and a value. Stamping one into a text
replaces every line in which the tag occurs, wherever it stands in the line, and
copies all other lines.
-/

namespace VersionStamp.Artifact

open VersionStamp.Text

structure TaggedLine where
  tag : String
  value : String
deriving Repr, DecidableEq

/-- A text together with the number of lines that were replaced in it. -/
structure Stamped where
  content : String
  replaced : Nat
deriving Repr, DecidableEq

namespace TaggedLine

def marks (tagged : TaggedLine) (line : List Char) : Bool :=
  occursIn tagged.tag.toList line

def stampLine (tagged : TaggedLine) (line : List Char) : List Char :=
  if tagged.marks line then tagged.tag.toList ++ tagged.value.toList ++ terminator line
  else line

def stampText (tagged : TaggedLine) (content : String) : Stamped :=
  let lines := splitLines content.toList
  { content := String.ofList (lines.flatMap tagged.stampLine)
    replaced := lines.countP tagged.marks }

end TaggedLine

end VersionStamp.Artifact
