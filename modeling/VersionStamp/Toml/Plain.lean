import VersionStamp.Toml.Reader
import VersionStamp.Toml.Value

/-! Values without quotes or brackets: numbers, booleans and dates.

Such a value is a run of certain characters, and the whole run must have one of the
known shapes. Integers must fit in 64 bits, and a float must not be so large that it
would be rounded up to infinity.
-/

namespace VersionStamp.Toml

def isRunChar (c : Char) : Bool :=
  c.isAlphanum || c == '+' || c == '-' || c == '_' || c == '.' || c == ':'

/-- One or more digits with single underscores between them; gives the digits. -/
def grouped? (isDigit : Char → Bool) : List Char → Option (List Char)
  | [] => none
  | [c] => if isDigit c then some [c] else none
  | c :: '_' :: rest => do
      if isDigit c then return c :: (← grouped? isDigit rest) else none
  | c :: rest => do
      if isDigit c then return c :: (← grouped? isDigit rest) else none

structure Signed where
  negative : Bool
  text : List Char

def Signed.ofText : List Char → Signed
  | '-' :: rest => ⟨true, rest⟩
  | '+' :: rest => ⟨false, rest⟩
  | text => ⟨false, text⟩

/-- Decimal digits that do not begin with an idle zero. -/
def wholeDigits? (text : List Char) : Option (List Char) := do
  let digits ← grouped? Char.isDigit text
  if digits.head? = some '0' ∧ digits.length ≠ 1 then none else return digits

def isHexDigit (c : Char) : Bool :=
  c.isDigit || ('a' ≤ c && c ≤ 'f') || ('A' ≤ c && c ≤ 'F')

def isOctalDigit (c : Char) : Bool := '0' ≤ c && c ≤ '7'

def isBinaryDigit (c : Char) : Bool := c == '0' || c == '1'

def digitValue (c : Char) : Nat :=
  if c.isDigit then c.toNat - '0'.toNat
  else if 'a' ≤ c then c.toNat - 'a'.toNat + 10
  else c.toNat - 'A'.toNat + 10

def numberOf (base : Nat) (digits : List Char) : Nat :=
  digits.foldl (fun value c => value * base + digitValue c) 0

def integerLimit : Nat := UInt64.size / 2

def isInteger (text : List Char) : Bool :=
  let below (base : Nat) (digits : Option (List Char)) : Bool :=
    digits.any fun digits => numberOf base digits < integerLimit
  match text with
  | '0' :: 'x' :: rest => below 16 (grouped? isHexDigit rest)
  | '0' :: 'o' :: rest => below 8 (grouped? isOctalDigit rest)
  | '0' :: 'b' :: rest => below 2 (grouped? isBinaryDigit rest)
  | text =>
      let signed := Signed.ofText text
      (wholeDigits? signed.text).any fun digits =>
        let value := numberOf 10 digits
        value < integerLimit || (signed.negative && value == integerLimit)

/-- The least number that is rounded up to infinity: half a step above the largest
double. -/
def doubleLimit : Nat := Nat.pow 2 1024 - Nat.pow 2 970

/-- Whether digits times a power of ten reach the double limit. Exponents far from the
limit are decided by the number of digits alone. -/
def reachesInfinity (digits : List Char) (exponent : Int) : Bool :=
  let value := numberOf 10 digits
  let size := (Nat.toDigits 10 value).length + exponent
  if value = 0 ∨ size < 300 then false
  else if 400 < size then true
  else if 0 ≤ exponent then doubleLimit ≤ value * Nat.pow 10 exponent.toNat
  else doubleLimit * Nat.pow 10 (-exponent).toNat ≤ value

def isExponentMark (c : Char) : Bool := c == 'e' || c == 'E'

/-- The number after an exponent mark. -/
def exponent? : List Char → Option Int
  | [] => some 0
  | mark :: rest => do
      let signed := Signed.ofText rest
      let value : Int := numberOf 10 (← grouped? Char.isDigit signed.text)
      if isExponentMark mark then return if signed.negative then -value else value else none

/-- The digits after a decimal point, if there is one, and what follows them. -/
def fraction? : List Char → Option (List Char × List Char)
  | '.' :: rest => do
      let digits ← grouped? Char.isDigit (rest.takeWhile (!isExponentMark ·))
      return (digits, rest.dropWhile (!isExponentMark ·))
  | rest => some ([], rest)

def isFiniteFloat (signed : Signed) : Bool :=
  let endsWhole (c : Char) : Bool := c == '.' || isExponentMark c
  let tail := signed.text.dropWhile (!endsWhole ·)
  let checked : Option Bool := do
    let whole ← wholeDigits? (signed.text.takeWhile (!endsWhole ·))
    let (fraction, tail) ← fraction? tail
    let exponent ← exponent? tail
    return signed.negative ||
      !reachesInfinity (whole ++ fraction) (exponent - fraction.length)
  !tail.isEmpty && checked.getD false

def isFloat (text : List Char) : Bool :=
  let signed := Signed.ofText text
  signed.text == ['i', 'n', 'f'] || signed.text == ['n', 'a', 'n'] || isFiniteFloat signed

/-- Reads a number of exactly so many digits. -/
def digits (count : Nat) (text : List Char) : Option (Nat × List Char) :=
  let taken := text.take count
  if taken.length = count ∧ taken.all Char.isDigit then
    some (numberOf 10 taken, text.drop count)
  else none

def daysIn (year month : Nat) : Nat :=
  if month = 2 then
    if year % 4 = 0 ∧ (year % 100 ≠ 0 ∨ year % 400 = 0) then 29 else 28
  else if month ∈ [4, 6, 9, 11] then 30
  else 31

/-- Reads a date of the calendar; gives what follows. -/
def date? (text : List Char) : Option (List Char) := do
  let (year, text) ← digits 4 text
  let (month, text) ← digits 2 (← expect '-' text)
  let (day, text) ← digits 2 (← expect '-' text)
  if 1 ≤ month ∧ month ≤ 12 ∧ 1 ≤ day ∧ day ≤ daysIn year month then return text
  else none

/-- Reads a time of day, in which a leap second may be the sixtieth. -/
def time? (text : List Char) : Option (List Char) := do
  let (hour, text) ← digits 2 text
  let (minute, text) ← digits 2 (← expect ':' text)
  let (second, text) ← digits 2 (← expect ':' text)
  if hour < 24 ∧ minute < 60 ∧ second ≤ 60 then
    match text with
    | '.' :: c :: rest => if c.isDigit then return rest.dropWhile Char.isDigit else none
    | text => return text
  else none

/-- Nothing, or the offset of a time zone. -/
def isOffset (text : List Char) : Bool :=
  match text with
  | [] => true
  | ['Z'] | ['z'] => true
  | sign :: rest =>
      let checked : Option Bool := do
        let (hour, text) ← digits 2 rest
        let (minute, text) ← digits 2 (← expect ':' text)
        return text.isEmpty && hour < 24 && minute < 60
      (sign == '+' || sign == '-') && checked.getD false

def isDate (text : List Char) : Bool := date? text == some []

def isDateTime (text : List Char) : Bool :=
  match date? text with
  | some [] => true
  | some (mark :: rest) =>
      (mark == 'T' || mark == 't' || mark == ' ') && (time? rest).any isOffset
  | none => time? text == some []

def kind? (text : List Char) : Option Kind :=
  if text == ['t', 'r', 'u', 'e'] || text == ['f', 'a', 'l', 's', 'e'] then some .boolean
  else if isInteger text then some .integer
  else if isFloat text then some .float
  else if isDateTime text then some .dateTime
  else none

theorem kind?_nil : kind? [] = none := by decide +kernel

/-- After a date, a blank may stand before the time. -/
def joinTime (run : List Char) : List Char → List Char × List Char
  | ' ' :: c :: others =>
      if isDate run && isRunChar c then
        (run ++ ' ' :: (c :: others).takeWhile isRunChar, (c :: others).dropWhile isRunChar)
      else (run, ' ' :: c :: others)
  | rest => (run, rest)

/-- The run that a text begins with, and what follows it. -/
def splitRun (text : List Char) : List Char × List Char :=
  joinTime (text.takeWhile isRunChar) (text.dropWhile isRunChar)

theorem append_joinTime (run rest : List Char) :
    (joinTime run rest).1 ++ (joinTime run rest).2 = run ++ rest := by
  unfold joinTime
  split
  · split
    · simp [List.takeWhile_append_dropWhile]
    · rfl
  · rfl

theorem append_splitRun (text : List Char) : (splitRun text).1 ++ (splitRun text).2 = text := by
  rw [splitRun, append_joinTime, List.takeWhile_append_dropWhile]

/-- Reads a run of characters as a value. -/
def plain : Reader Kind where
  read text := (kind? (splitRun text).1).map fun kind => (kind, (splitRun text).2)
  shortens {text} _ _ found := by
    obtain ⟨kind, known, equal⟩ := Option.map_eq_some_iff.mp found
    cases equal
    have parts := congrArg List.length (append_splitRun text)
    rw [List.length_append] at parts
    have some_run : (splitRun text).1 ≠ [] := by
      intro none_run
      rw [none_run, kind?_nil] at known
      cases known
    have positive := List.length_pos_iff.mpr some_run
    omega

end VersionStamp.Toml
