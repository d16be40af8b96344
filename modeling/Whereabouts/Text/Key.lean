import Whereabouts.Text.Basic
import Whereabouts.Text.CaseMap

/-!
# Keys of names

Stops and lines whose names differ in case, spacing or punctuation alone share one key. A key keeps
the letters of two scripts, by the Unicode property `Script`, and the digits.
-/

namespace Whereabouts.Text

/-- The ranges of code points of the script Latin. -/
def latinRanges : List (Nat × Nat) :=
  [(0x41, 0x5a), (0x61, 0x7a), (0xaa, 0xaa), (0xba, 0xba), (0xc0, 0xd6), (0xd8, 0xf6),
    (0xf8, 0x2b8), (0x2e0, 0x2e4), (0x1d00, 0x1d25), (0x1d2c, 0x1d5c), (0x1d62, 0x1d65),
    (0x1d6b, 0x1d77), (0x1d79, 0x1dbe), (0x1e00, 0x1eff), (0x2071, 0x2071), (0x207f, 0x207f),
    (0x2090, 0x209c), (0x212a, 0x212b), (0x2132, 0x2132), (0x214e, 0x214e), (0x2160, 0x2188),
    (0x2c60, 0x2c7f), (0xa722, 0xa787), (0xa78b, 0xa7cd), (0xa7d0, 0xa7d1), (0xa7d3, 0xa7d3),
    (0xa7d5, 0xa7dc), (0xa7f2, 0xa7ff), (0xab30, 0xab5a), (0xab5c, 0xab64), (0xab66, 0xab69),
    (0xfb00, 0xfb06), (0xff21, 0xff3a), (0xff41, 0xff5a), (0x10780, 0x10785), (0x10787, 0x107b0),
    (0x107b2, 0x107ba), (0x1df00, 0x1df1e), (0x1df25, 0x1df2a)]

/-- The ranges of code points of the script Cyrillic. -/
def cyrillicRanges : List (Nat × Nat) :=
  [(0x400, 0x484), (0x487, 0x52f), (0x1c80, 0x1c8a), (0x1d2b, 0x1d2b), (0x1d78, 0x1d78),
    (0x2de0, 0x2dff), (0xa640, 0xa69f), (0xfe2e, 0xfe2f), (0x1e030, 0x1e06d), (0x1e08f, 0x1e08f)]

/-- Whether a character belongs to the script Latin. -/
def isLatin (c : Char) : Bool := inRanges latinRanges c.toNat

/-- Whether a character belongs to the script Cyrillic. -/
def isCyrillic (c : Char) : Bool := inRanges cyrillicRanges c.toNat

/-- Whether a key may hold the character: Latin and Cyrillic letters and the digits `0` to `9`. -/
def isKeyChar (c : Char) : Bool := isLatin c || isCyrillic c || c.isDigit

/-- What one character of a name contributes to the key. -/
def keyChars (c : Char) : List Char := (lowercase c).filter isKeyChar

/-- The key of a name: its lower case without all that is no letter of the two scripts or digit. -/
def nameKey (name : String) : String := String.ofList (name.toList.flatMap keyChars)

end Whereabouts.Text
