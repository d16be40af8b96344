/-!
# TOML values

What a TOML file says, after its tables have been put together.
-/

namespace Whereabouts

/-- A TOML value. Of dates and times only their kind is kept. -/
inductive Toml where
  | text (s : String)
  | integer (n : Int)
  | float (x : Float)
  | truth (b : Bool)
  | time
  | array (items : List Toml)
  | table (entries : List (String × Toml))

instance : Inhabited Toml := ⟨.time⟩

namespace Toml

/-- Reads something off the front of a text and gives the rest. -/
abbrev Reader (β : Type) := List Char → Option (β × List Char)

/-- How deeply arrays and tables may be nested, and how many parts a key may have, plus one. -/
def maxDepth : Nat := 80

def isSpace (c : Char) : Bool := c == ' ' || c == '\t'

def skipSpaces (cs : List Char) : List Char := cs.dropWhile isSpace

/-- Whether a character may stand in comments and strings, tabs apart: no control character may. -/
def isPrintable (c : Char) : Bool := 0x20 ≤ c.toNat && c.toNat != 0x7f

/-- The text after the end of a line, `none` where the line goes on. -/
def newline? : List Char → Option (List Char)
  | '\n' :: rest => some rest
  | '\r' :: '\n' :: rest => some rest
  | _ => none

/-- The text after a comment, where there is one. -/
def skipComment : List Char → List Char
  | '#' :: rest => rest.dropWhile fun c => isPrintable c || c == '\t'
  | cs => cs

/-- The text after the end of a line, before which only spaces and a comment may stand. The last
line may end with the text. -/
def endOfLine? (cs : List Char) : Option (List Char) :=
  match skipComment (skipSpaces cs) with
  | [] => some []
  | rest => newline? rest

/-- The text after spaces, line ends and comments, which may stand between the items of an array. -/
def skipLines : Nat → List Char → List Char
  | 0, cs => cs
  | fuel + 1, cs =>
    let rest := skipSpaces cs
    match newline? (skipComment rest) with
    | some rest => skipLines fuel rest
    | none => rest

end Toml

end Whereabouts
