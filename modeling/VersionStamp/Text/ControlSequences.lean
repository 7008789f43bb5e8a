/-! Texts without the sequences that control a terminal.

Such a sequence begins with an escape character and ends by the rules of its kind. A
text is shown without them and without the control characters other than blanks.
-/

namespace VersionStamp.Text

/-- What the next character belongs to. -/
inductive Phase where
  | text
  | escape
  | escapeIntermediate
  | controlEntry
  | controlParameters
  | controlIntermediate
  | controlIgnored
  | deviceEntry
  | deviceParameters
  | deviceIntermediate
  | deviceIgnored
  | deviceData
  | systemCommand
  | hiddenString
deriving Repr, DecidableEq

/-- What a character can be within a sequence. -/
inductive Role where
  | control
  | intermediate
  | parameter
  | marker
  | final
  | delete
  | wide
deriving Repr, DecidableEq

def Role.ofChar (c : Char) : Role :=
  if c.toNat < 0x20 then .control
  else if c.toNat < 0x30 then .intermediate
  else if c.toNat < 0x3C then .parameter
  else if c.toNat < 0x40 then .marker
  else if c.toNat < 0x7F then .final
  else if c.toNat = 0x7F then .delete
  else .wide

namespace Phase

/-- Control characters keep their effect within these. -/
def executes : Phase → Bool
  | .text | .escape | .escapeIntermediate => true
  | .controlEntry | .controlParameters | .controlIntermediate | .controlIgnored => true
  | _ => false

def isString : Phase → Bool
  | .deviceIgnored | .deviceData | .hiddenString => true
  | _ => false

/-- What a character after the escape character begins. -/
def afterEscape (c : Char) : Phase :=
  match c with
  | '[' => .controlEntry
  | ']' => .systemCommand
  | 'P' => .deviceEntry
  | 'X' | '^' | '_' => .hiddenString
  | _ => .text

/-- The byte that ends a string. Within a wide character it does so too. -/
def holdsTerminator (c : Char) : Bool := (String.utf8EncodeChar c).contains 0x9C

/-- What follows a character that is not shown. -/
def next (phase : Phase) (c : Char) : Phase :=
  if c = '\x18' ∨ c = '\x1a' then .text
  else if c = '\x1b' then .escape
  else
    match phase, Role.ofChar c with
    | .escape, .intermediate => .escapeIntermediate
    | .escape, .parameter | .escape, .marker | .escape, .final => afterEscape c
    | .escapeIntermediate, .parameter | .escapeIntermediate, .marker => .text
    | .escapeIntermediate, .final => .text
    | .controlEntry, .intermediate | .controlParameters, .intermediate => .controlIntermediate
    | .controlEntry, .parameter | .controlEntry, .marker => .controlParameters
    | .controlParameters, .marker => .controlIgnored
    | .controlIntermediate, .parameter | .controlIntermediate, .marker => .controlIgnored
    | .controlEntry, .final | .controlParameters, .final => .text
    | .controlIntermediate, .final | .controlIgnored, .final => .text
    | .deviceEntry, .intermediate | .deviceParameters, .intermediate => .deviceIntermediate
    | .deviceEntry, .parameter | .deviceEntry, .marker => .deviceParameters
    | .deviceParameters, .marker => .deviceIgnored
    | .deviceIntermediate, .parameter | .deviceIntermediate, .marker => .deviceIgnored
    | .deviceEntry, .final | .deviceParameters, .final | .deviceIntermediate, .final => .deviceData
    | .systemCommand, .control => if c = '\x07' then .text else .systemCommand
    | phase, .wide => if phase.isString && holdsTerminator c then .text else phase
    | phase, _ => phase

end Phase

def isShownControl (c : Char) : Bool :=
  c = '\t' || c = '\n' || c = '\x0c' || c = '\r'

/-- Whether a character is shown where it stands. -/
def isShown (phase : Phase) (c : Char) : Bool :=
  match Role.ofChar c with
  | .control => phase.executes && isShownControl c
  | .delete => false
  | _ => phase = .text

/-- The phase by which characters are shown. -/
def Phase.shownAs (phase : Phase) (suspended : Bool) : Phase := if suspended then .text else phase

/-- The shown characters. A blank within a sequence suspends it: what follows the blank is
shown as if there were no sequence, up to the next control character, after which the
sequence goes on. A wide character ends a suspended sequence. -/
def shownFrom (suspended : Bool) (phase : Phase) : List Char → List Char
  | [] => []
  | c :: rest =>
      if isShown (phase.shownAs suspended) c then
        c :: shownFrom true (if Role.ofChar c = .wide then .text else phase) rest
      else shownFrom false (phase.next c) rest

def withoutControls (text : String) : String :=
  String.ofList (shownFrom false .text text.toList)

end VersionStamp.Text
