import Whereabouts.Toml.Basic
import Whereabouts.Url.Percent

/-!
# Strings and keys

Strings in double quotes have escapes, strings in single quotes have none. Three quotes begin a
string of several lines, in which line ends are kept as line feeds.
-/

namespace Whereabouts.Toml

/-- The character of a code point that is written in hexadecimal digits. -/
def codePoint? (digits : List Char) : Option Char := do
  let n ← digits.foldlM (fun n c => (Url.hexValue? c).map (16 * n + ·)) 0
  if n.isValidChar then some (Char.ofNat n) else none

def escape : Reader Char
  | 'b' :: cs => some ('\x08', cs)
  | 't' :: cs => some ('\t', cs)
  | 'n' :: cs => some ('\n', cs)
  | 'f' :: cs => some ('\x0c', cs)
  | 'r' :: cs => some ('\r', cs)
  | '"' :: cs => some ('"', cs)
  | '\\' :: cs => some ('\\', cs)
  | 'u' :: cs => if cs.length < 4 then none else (codePoint? (cs.take 4)).map (·, cs.drop 4)
  | 'U' :: cs => if cs.length < 8 then none else (codePoint? (cs.take 8)).map (·, cs.drop 8)
  | _ => none

/-- Whether a character may stand in a string as it is. -/
def isTextChar (c : Char) : Bool := isPrintable c || c == '\t'

/-- Reads the rest of a string in double quotes; `chars` is what was read, in reverse. -/
def basicRest : Nat → List Char → Reader String
  | 0, _, _ => none
  | _ + 1, chars, '"' :: cs => some (String.ofList chars.reverse, cs)
  | fuel + 1, chars, '\\' :: cs => do
    let (c, cs) ← escape cs
    basicRest fuel (c :: chars) cs
  | fuel + 1, chars, c :: cs => if isTextChar c then basicRest fuel (c :: chars) cs else none
  | _ + 1, _, [] => none

def literalRest : Reader String := fun cs =>
  let chars := cs.takeWhile (· != '\'')
  match cs.drop chars.length with
  | _ :: rest => if chars.all isTextChar then some (String.ofList chars, rest) else none
  | [] => none

/-- The text after a backslash at the end of a line: the next character that is no blank. -/
def skipBlankLines : List Char → List Char
  | '\r' :: '\n' :: cs => skipBlankLines cs
  | c :: cs => if isSpace c || c == '\n' then skipBlankLines cs else c :: cs
  | [] => []

/-- Whether only blanks stand before the end of the line. -/
def lineEnds (cs : List Char) : Bool := (newline? (skipSpaces cs)).isSome

/-- Reads the quotes at the end of a string of several lines, or up to two quotes inside of it.
Whether the string ends is said first. -/
def quotes (quote : Char) (cs : List Char) : Bool × List Char × List Char :=
  let count := min (cs.takeWhile (· == quote)).length 5
  if 3 ≤ count then (true, List.replicate (count - 3) quote, cs.drop count)
  else (false, List.replicate count quote, cs.drop count)

/-- Reads the rest of a string of several lines; `chars` is what was read, in reverse. Escapes count
where the quote is a double one. -/
def linesRest (quote : Char) : Nat → List Char → Reader String
  | 0, _, _ => none
  | _ + 1, _, [] => none
  | fuel + 1, chars, c :: cs =>
    if c == quote then
      let (ends, inner, rest) := quotes quote (c :: cs)
      if ends then some (String.ofList (inner ++ chars).reverse, rest)
      else linesRest quote fuel (inner ++ chars) rest
    else if c == '\\' && quote == '"' then
      if lineEnds cs then linesRest quote fuel chars (skipBlankLines cs)
      else do
        let (e, cs) ← escape cs
        linesRest quote fuel (e :: chars) cs
    else match newline? (c :: cs) with
      | some rest => linesRest quote fuel ('\n' :: chars) rest
      | none => if isTextChar c then linesRest quote fuel (c :: chars) cs else none

/-- Reads a string of several lines after its opening quotes; a line end right behind them is
dropped. -/
def lines (quote : Char) : Reader String := fun cs =>
  linesRest quote (cs.length + 1) [] ((newline? cs).getD cs)

def string : Reader String
  | '"' :: '"' :: '"' :: cs => lines '"' cs
  | '\'' :: '\'' :: '\'' :: cs => lines '\'' cs
  | '"' :: cs => basicRest (cs.length + 1) [] cs
  | '\'' :: cs => literalRest cs
  | _ => none

/-- Whether a character may stand in a key without quotes. -/
def isKeyChar (c : Char) : Bool := c.isAlphanum || c == '_' || c == '-'

def keyPart : Reader String := fun cs =>
  match cs with
  | '"' :: rest => basicRest (rest.length + 1) [] rest
  | '\'' :: rest => literalRest rest
  | _ =>
    let word := cs.takeWhile isKeyChar
    if word.isEmpty then none else some (String.ofList word, cs.drop word.length)

/-- Reads the parts of a key, which are parted by points, and the spaces around them. -/
def keyParts : Nat → Reader (List String)
  | 0, _ => none
  | fuel + 1, cs => do
    let (part, rest) ← keyPart (skipSpaces cs)
    match skipSpaces rest with
    | '.' :: rest => do
      let (parts, rest) ← keyParts fuel rest
      return (part :: parts, rest)
    | rest => return ([part], rest)

def key : Reader (List String) := keyParts (maxDepth - 1)

end Whereabouts.Toml
