/-!
# Percent encoding

Bytes that may not stand in a part of an address are written as a percent sign and two hexadecimal
digits. `decode` gives the bytes back; a percent sign without two digits behind it stands for
itself.
-/

namespace Whereabouts.Url

def upperHex (n : Nat) : Char :=
  if n < 10 then Char.ofNat ('0'.toNat + n) else Char.ofNat ('A'.toNat + n - 10)

def escapedByte (b : UInt8) : List Char := ['%', upperHex (b.toNat / 16), upperHex (b.toNat % 16)]

def hexValue? (c : Char) : Option Nat :=
  if c.isDigit then some (c.toNat - '0'.toNat)
  else if 'a' ≤ c ∧ c ≤ 'f' then some (c.toNat - 'a'.toNat + 10)
  else if 'A' ≤ c ∧ c ≤ 'F' then some (c.toNat - 'A'.toNat + 10)
  else none

/-- Whether a character is a control character or none of ASCII; these are always encoded. -/
def isUnprintable (c : Char) : Bool := c.toNat < 0x20 || 0x7e < c.toNat

/-- Encodes the characters of a set, and those that are always encoded. -/
def encode (set : List Char) (cs : List Char) : List Char :=
  cs.flatMap fun c =>
    if isUnprintable c || set.contains c then
      (String.singleton c).toUTF8.toList.flatMap escapedByte
    else [c]

/-- The characters that are encoded in a fragment. -/
def fragmentSet : List Char := [' ', '"', '<', '>', '\x60']

def pathSet : List Char := fragmentSet ++ ['#', '?', '\x7b', '\x7d']

/-- The characters that are encoded in a single segment that is appended to a path. -/
def segmentSet (special : Bool) : List Char :=
  pathSet ++ ['/', '%'] ++ (if special then ['\\'] else [])

def querySet (special : Bool) : List Char :=
  [' ', '"', '#', '<', '>'] ++ (if special then ['\''] else [])

def decode : List Char → List UInt8
  | [] => []
  | '%' :: a :: b :: rest =>
    match hexValue? a, hexValue? b with
    | some x, some y => UInt8.ofNat (16 * x + y) :: decode rest
    | _, _ => '%'.toNat.toUInt8 :: decode (a :: b :: rest)
  | c :: rest => (String.singleton c).toUTF8.toList ++ decode rest
termination_by cs => cs.length

end Whereabouts.Url
