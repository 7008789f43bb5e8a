/-! Writing strings.

A string is written in the first of five ways that keeps it readable: plainly where
nothing has to be escaped, without any escapes where possible, and in triple quotes
where it has several lines.
-/

namespace VersionStamp.Toml

/-- Quotes, one or three on each side. Between apostrophes nothing is escaped. -/
inductive Quotation where
  | basic
  | literal
  | basicBlock
  | literalBlock
deriving Repr, DecidableEq

/-- The longest run of a character, where `current` of them stand just before the text. -/
def longestRun (sign : Char) (current : Nat) : List Char → Nat
  | [] => current
  | c :: rest =>
      if c = sign then longestRun sign (current + 1) rest
      else max current (longestRun sign 0 rest)

/-- Control characters other than those that any form can hold. -/
def isCode (c : Char) : Bool := (c < ' ' && c != '\t' && c != '\n') || c == '\x7f'

namespace Quotation

def choose (text : List Char) : Quotation :=
  let code := text.any isCode
  let apostrophes := longestRun '\'' 0 text
  let quotes := longestRun '"' 0 text
  let lines := text.contains '\n'
  let backslash := text.contains '\\'
  if !code ∧ !backslash ∧ quotes = 0 ∧ !lines then .basic
  else if !code ∧ apostrophes = 0 ∧ !lines then .literal
  else if !code ∧ !backslash ∧ quotes ≤ 2 then .basicBlock
  else if !code ∧ apostrophes ≤ 2 then .literalBlock
  else if lines then .basicBlock
  else .basic

def upperHexDigit (n : Nat) : Char :=
  if n < 10 then Char.ofNat ('0'.toNat + n) else Char.ofNat ('A'.toNat + n - 10)

/-- The escape of a character other than a quote or line feed, if it needs one. -/
def escaped (c : Char) : List Char :=
  match c with
  | '\x08' => ['\\', 'b']
  | '\t' => ['\\', 't']
  | '\x0c' => ['\\', 'f']
  | '\r' => ['\\', 'r']
  | '\\' => ['\\', '\\']
  | c =>
      if c < ' ' ∨ c = '\x7f' then
        ['\\', 'u', '0', '0', upperHexDigit (c.toNat / 16), upperHexDigit (c.toNat % 16)]
      else [c]

def basicChar (c : Char) : List Char :=
  match c with
  | '"' => ['\\', '"']
  | '\n' => ['\\', 'n']
  | c => escaped c

/-- Within triple quotes a run of quotes is broken up by escaping each third of them.
The number counts the quotes left as they are just before the text. -/
def blockBody : Nat → List Char → List Char
  | _, [] => []
  | run, c :: rest =>
      if c = '"' then
        if run < 2 then '"' :: blockBody (run + 1) rest
        else '\\' :: '"' :: blockBody 0 rest
      else if c = '\n' then '\n' :: blockBody 0 rest
      else escaped c ++ blockBody 0 rest

/-- A line feed after the opening quotes is not part of the text, so one more is put
before a text of several lines. -/
def opening (text : List Char) : List Char :=
  if text.contains '\n' then ['\n'] else []

def write (quotation : Quotation) (text : List Char) : List Char :=
  match quotation with
  | .basic => '"' :: text.flatMap basicChar ++ ['"']
  | .literal => '\'' :: text ++ ['\'']
  | .basicBlock => ['"', '"', '"'] ++ opening text ++ blockBody 0 text ++ ['"', '"', '"']
  | .literalBlock => ['\'', '\'', '\''] ++ opening text ++ text ++ ['\'', '\'', '\'']

end Quotation

def quote (text : String) : String :=
  String.ofList ((Quotation.choose text.toList).write text.toList)

end VersionStamp.Toml
