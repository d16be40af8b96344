import Whereabouts.Decimal.Reading
import Whereabouts.Text.Basic
import Whereabouts.Toml.Basic
import Whereabouts.Url.Percent

/-!
# Numbers, truth values and times

The values that are written as one word. Digits may be grouped by single underscores; leading zeros
are refused. Integers have 64 bits, and a number that is too great for a double is refused.
-/

namespace Whereabouts.Toml

/-- The digits without the underscores between them. -/
def ungrouped? (isDigit : Char → Bool) (cs : List Char) : Option (List Char) :=
  let groups := Text.pieces (· == '_') cs
  if groups.all fun group => !group.isEmpty && group.all isDigit then some groups.flatten else none

/-- The digits of a decimal number before the point. -/
def whole? (cs : List Char) : Option (List Char) := do
  match ← ungrouped? Char.isDigit cs with
  | '0' :: _ :: _ => none
  | digits => some digits

def bounded? (n : Int) : Option Int :=
  if -(Nat.pow 2 63) ≤ n ∧ n < Nat.pow 2 63 then some n else none

/-- A natural number written to another base than ten. -/
def based? (base : Nat) (cs : List Char) : Option Int := do
  let isDigit (c : Char) : Bool := (Url.hexValue? c).any (· < base)
  let digits ← ungrouped? isDigit cs
  bounded? (digits.foldl (fun n c => base * n + (Url.hexValue? c).getD 0) 0)

def integer? : List Char → Option Int
  | '0' :: 'x' :: digits => based? 16 digits
  | '0' :: 'o' :: digits => based? 8 digits
  | '0' :: 'b' :: digits => based? 2 digits
  | cs => do
    let (negative, digits) := Decimal.takeSign cs
    let n := Decimal.digitsValue (← whole? digits)
    bounded? (if negative then -(n : Int) else n)

def exponent? (cs : List Char) : Option Int := do
  let (negative, digits) := Decimal.takeSign cs
  let n := Decimal.digitsValue (← ungrouped? Char.isDigit digits)
  return if negative then -(n : Int) else n

/-- The parts of a number before and after the first character that satisfies `isMark`. -/
def splitAt? (isMark : Char → Bool) (cs : List Char) : Option (List Char × List Char) :=
  match cs.dropWhile (!isMark ·) with
  | _ :: after => some (cs.takeWhile (!isMark ·), after)
  | [] => none

/-- A number with a point or an exponent, without a sign. -/
def magnitude? (cs : List Char) : Option Float := do
  let (mantissa, exponent) ← match splitAt? (fun c => c == 'e' || c == 'E') cs with
    | some (mantissa, e) => (exponent? e).map fun e => (mantissa, e)
    | none => if cs.contains '.' then some (cs, 0) else none
  let (whole, fraction) ← match splitAt? (· == '.') mantissa with
    | some (whole, f) => (ungrouped? Char.isDigit f).map fun f => (whole, f)
    | none => some (mantissa, [])
  let digits := (← whole? whole) ++ fraction
  return Decimal.nearest (Decimal.digitsValue digits) (exponent - fraction.length)

/-- A floating-point number. Infinity has to be written as such. -/
def float? (cs : List Char) : Option Float := do
  let (negative, rest) := Decimal.takeSign cs
  let x ← match rest with
    | ['i', 'n', 'f'] => some Decimal.infinity
    | ['n', 'a', 'n'] => some (0.0 / 0.0)
    | _ => do
      let x ← magnitude? rest
      if x.isInf && !negative then none else some x
  return if negative then -x else x

/-- The number of exactly `count` digits at the front of a text. -/
def takeDigits (count : Nat) : Reader Nat := fun cs =>
  let digits := cs.take count
  if digits.length = count ∧ digits.all Char.isDigit then
    some (Decimal.digitsValue digits, cs.drop count)
  else none

def after? (c : Char) : List Char → Option (List Char)
  | first :: rest => if first == c then some rest else none
  | [] => none

def daysIn (year month : Nat) : Nat :=
  if month = 2 then
    if year % 4 = 0 ∧ (year % 100 ≠ 0 ∨ year % 400 = 0) then 29 else 28
  else if [4, 6, 9, 11].contains month then 30
  else 31

def skipDate? (cs : List Char) : Option (List Char) := do
  let (year, cs) ← takeDigits 4 cs
  let (month, cs) ← takeDigits 2 (← after? '-' cs)
  let (day, cs) ← takeDigits 2 (← after? '-' cs)
  if 1 ≤ month ∧ month ≤ 12 ∧ 1 ≤ day ∧ day ≤ daysIn year month then some cs else none

def skipTime? (cs : List Char) : Option (List Char) := do
  let (hour, cs) ← takeDigits 2 cs
  let (minute, cs) ← takeDigits 2 (← after? ':' cs)
  let (second, cs) ← takeDigits 2 (← after? ':' cs)
  if 23 < hour ∨ 59 < minute ∨ 60 < second then none
  match cs with
  | '.' :: fraction =>
    if fraction.head?.any Char.isDigit then some (fraction.dropWhile Char.isDigit) else none
  | _ => some cs

/-- Whether a text is the offset of a time zone, or nothing. -/
def isOffset : List Char → Bool
  | [] | ['Z'] | ['z'] => true
  | sign :: cs =>
    (sign == '+' || sign == '-') && (do
      let (hour, cs) ← takeDigits 2 cs
      let (minute, cs) ← takeDigits 2 (← after? ':' cs)
      if hour ≤ 23 ∧ minute ≤ 59 ∧ cs = [] then some () else none).isSome

/-- Whether a word is a date, a time of the day, or both. -/
def isTime (cs : List Char) : Bool :=
  match skipTime? cs, skipDate? cs with
  | some rest, _ => rest.isEmpty
  | none, some [] => true
  | none, some (mark :: rest) =>
    (mark == 'T' || mark == 't' || mark == ' ') && (skipTime? rest).any isOffset
  | none, none => false

def scalar? (word : List Char) : Option Toml :=
  match word with
  | ['t', 'r', 'u', 'e'] => some (.truth true)
  | ['f', 'a', 'l', 's', 'e'] => some (.truth false)
  | _ =>
    ((integer? word).map .integer).orElse fun _ =>
      ((float? word).map .float).orElse fun _ => if isTime word then some .time else none

def isWordChar (c : Char) : Bool :=
  c.isAlphanum || c == '+' || c == '-' || c == '_' || c == '.' || c == ':'

/-- Reads a value that is one word. A date and a time may be parted by a single space. -/
def scalar : Reader Toml := fun cs =>
  let word := cs.takeWhile isWordChar
  let rest := cs.drop word.length
  let (word, rest) := match skipDate? word, rest with
    | some [], ' ' :: c :: more =>
      if c.isDigit then
        let clock := (c :: more).takeWhile isWordChar
        (word ++ ' ' :: clock, (c :: more).drop clock.length)
      else (word, rest)
    | _, _ => (word, rest)
  (scalar? word).map fun value => (value, rest)

end Whereabouts.Toml
