/-! Showing bytes that need not be valid UTF-8.

Each maximal piece that could begin a character but does not continue as one is
shown as a single U+FFFD.
-/

namespace VersionStamp.Text

/-- The bits read so far of a character, how many bytes it still needs, and the
range that the next of them must lie in. -/
structure Pending where
  value : Nat
  needed : Nat
  low : Nat := 0x80
  high : Nat := 0xBF

def replacementCharacter : Char := '\ufffd'

/-- What a byte does that does not continue a character: it is one by itself,
begins a longer one, or is shown as a replacement. -/
def startCharacter (byte : Nat) : List Char × Option Pending :=
  if byte < 0x80 then ([Char.ofNat byte], none)
  else if byte < 0xC2 then ([replacementCharacter], none)
  else if byte < 0xE0 then ([], some { value := byte % 0x20, needed := 1 })
  else if byte = 0xE0 then ([], some { value := 0, needed := 2, low := 0xA0 })
  else if byte = 0xED then ([], some { value := 0xD, needed := 2, high := 0x9F })
  else if byte < 0xF0 then ([], some { value := byte % 0x10, needed := 2 })
  else if byte = 0xF0 then ([], some { value := 0, needed := 3, low := 0x90 })
  else if byte < 0xF4 then ([], some { value := byte % 8, needed := 3 })
  else if byte = 0xF4 then ([], some { value := 4, needed := 3, high := 0x8F })
  else ([replacementCharacter], none)

def lossyFrom : Option Pending → List UInt8 → List Char
  | none, [] => []
  | some _, [] => [replacementCharacter]
  | none, byte :: rest =>
      let (shown, pending) := startCharacter byte.toNat
      shown ++ lossyFrom pending rest
  | some pending, byte :: rest =>
      if pending.low ≤ byte.toNat ∧ byte.toNat ≤ pending.high then
        let value := pending.value * 64 + byte.toNat % 64
        if pending.needed = 1 then Char.ofNat value :: lossyFrom none rest
        else lossyFrom (some { value, needed := pending.needed - 1 }) rest
      else
        let (shown, next) := startCharacter byte.toNat
        replacementCharacter :: shown ++ lossyFrom next rest

def lossy (bytes : List UInt8) : String := String.ofList (lossyFrom none bytes)

end VersionStamp.Text
