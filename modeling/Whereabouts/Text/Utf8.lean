/-!
# Bytes as text

Bytes that are no UTF-8 are still read as a text: where they leave off being the beginning of a
character, what was read of this character becomes one replacement character, and reading starts
again at the byte that does not belong to it.
-/

namespace Whereabouts.Text

/-- A character of which some bytes are still to come. -/
structure Begun where
  /-- The part of the code point that is known. -/
  code : Nat
  /-- How many bytes are to come. -/
  missing : Nat
  /-- The bounds of the next byte. They leave out the longer forms of a code point that has a
  shorter one, the surrogates, and what is above the greatest code point. -/
  low : Nat := 0x80
  high : Nat := 0xbf
deriving DecidableEq, Repr

/-- The character of several bytes that a byte begins, if it begins one. -/
def Begun.ofByte? (b : Nat) : Option Begun :=
  if 0xc2 ≤ b ∧ b ≤ 0xdf then some { code := b - 0xc0, missing := 1 }
  else if b = 0xe0 then some { code := 0, missing := 2, low := 0xa0 }
  else if b = 0xed then some { code := 0xd, missing := 2, high := 0x9f }
  else if 0xe1 ≤ b ∧ b ≤ 0xef then some { code := b - 0xe0, missing := 2 }
  else if b = 0xf0 then some { code := 0, missing := 3, low := 0x90 }
  else if b = 0xf4 then some { code := 4, missing := 3, high := 0x8f }
  else if 0xf1 ≤ b ∧ b ≤ 0xf3 then some { code := b - 0xf0, missing := 3 }
  else none

/-- What stands for bytes that are no character. -/
def replacement : Char := '\ufffd'

/-- Reads a byte between two characters. -/
def readFirst (b : Nat) : List Char × Option Begun :=
  if b < 0x80 then ([Char.ofNat b], none)
  else match Begun.ofByte? b with
    | some begun => ([], some begun)
    | none => ([replacement], none)

/-- Reads a byte within a character. -/
def readNext (begun : Begun) (b : Nat) : List Char × Option Begun :=
  if begun.low ≤ b ∧ b ≤ begun.high then
    let code := 64 * begun.code + (b - 0x80)
    if begun.missing = 1 then ([Char.ofNat code], none)
    else ([], some { code, missing := begun.missing - 1 })
  else
    let (read, next) := readFirst b
    (replacement :: read, next)

def lossyChars : Option Begun → List UInt8 → List Char
  | none, [] => []
  | some _, [] => [replacement]
  | none, b :: bs =>
    let (read, next) := readFirst b.toNat
    read ++ lossyChars next bs
  | some begun, b :: bs =>
    let (read, next) := readNext begun b.toNat
    read ++ lossyChars next bs

/-- The text of bytes, with replacement characters where they are no UTF-8. -/
def lossy (bytes : List UInt8) : String :=
  (String.fromUTF8? ⟨bytes.toArray⟩).getD (String.ofList (lossyChars none bytes))

end Whereabouts.Text
