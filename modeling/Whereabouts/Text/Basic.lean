/-!
# Blank characters and pieces

The characters of the Unicode property `White_Space` and trimming by it, and cutting at separators.
-/

namespace Whereabouts.Text

/-- The ranges of code points with the property `White_Space`. -/
def blankRanges : List (Nat × Nat) :=
  [(0x9, 0xd), (0x20, 0x20), (0x85, 0x85), (0xa0, 0xa0), (0x1680, 0x1680), (0x2000, 0x200a),
    (0x2028, 0x2029), (0x202f, 0x202f), (0x205f, 0x205f), (0x3000, 0x3000)]

/-- Whether a code point lies in one of the ranges. -/
def inRanges (ranges : List (Nat × Nat)) (n : Nat) : Bool :=
  ranges.any fun r => r.1 ≤ n && n ≤ r.2

def isBlank (c : Char) : Bool := inRanges blankRanges c.toNat

def trim (s : String) : String :=
  String.ofList (((s.toList.dropWhile isBlank).reverse.dropWhile isBlank).reverse)

def allBlank (s : String) : Bool := s.toList.all isBlank

/-- The text with the letters `A` to `Z` in lower case. -/
def asciiLower (s : String) : String := String.ofList (s.toList.map Char.toLower)

/-- The pieces of a list between the items that satisfy `isEnd`: one piece more than there are such
items, and pieces may be empty. -/
def pieces {β : Type} (isEnd : β → Bool) : List β → List (List β)
  | [] => [[]]
  | c :: cs =>
    match isEnd c, pieces isEnd cs with
    | true, rest => [] :: rest
    | false, piece :: rest => (c :: piece) :: rest
    | false, [] => [[c]]

end Whereabouts.Text
