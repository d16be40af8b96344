import Whereabouts.Decimal.Binary

/-!
# Reading decimal text

`nearest` gives the double nearest to `digits * 10 ^ exponent`. `float?` and `natural?` read whole
texts: a text with anything beside the number is refused.
-/

namespace Whereabouts.Decimal

def digitsValue (cs : List Char) : Nat :=
  cs.foldl (fun n c => 10 * n + (c.toNat - '0'.toNat)) 0

/-- The digits at the front of a text and what follows them. -/
def spanDigits (cs : List Char) : List Char × List Char :=
  (cs.takeWhile Char.isDigit, cs.dropWhile Char.isDigit)

def infinity : Float := 1.0 / 0.0

/--
The double nearest to `digits * 10 ^ exponent`. Numbers that are far outside the range of doubles
are settled by their magnitude alone.
-/
def nearest (digits : Nat) (exponent : Int) : Float :=
  let magnitude := exponent + (Nat.repr digits).length
  if digits = 0 ∨ magnitude < -400 then 0.0
  else if 400 < magnitude then infinity
  else if 0 ≤ exponent then Float.ofScientific digits false exponent.toNat
  else Float.ofScientific digits true (-exponent).toNat

/-- The sign at the front of a text: whether it is a minus, and the rest. -/
def takeSign : List Char → Bool × List Char
  | '-' :: cs => (true, cs)
  | '+' :: cs => (false, cs)
  | cs => (false, cs)

/-- The exponent part at the end of a number: empty, or `e`, an optional sign and digits. -/
def exponent? : List Char → Option Int
  | [] => some 0
  | c :: cs =>
    if c = 'e' ∨ c = 'E' then
      let (negative, digits) := takeSign cs
      if digits = [] ∨ !digits.all Char.isDigit then none
      else some (if negative then -(digitsValue digits : Int) else digitsValue digits)
    else none

/-- A number without a sign: digits with at most one point among them, and an exponent. -/
def magnitude? (cs : List Char) : Option Float :=
  let (whole, rest) := spanDigits cs
  let (fraction, rest) := match rest with
    | '.' :: tail => spanDigits tail
    | _ => ([], rest)
  if whole = [] ∧ fraction = [] then none
  else (exponent? rest).map fun e => nearest (digitsValue (whole ++ fraction)) (e - fraction.length)

/-- The names of the numbers that have no digits. -/
def named? (cs : List Char) : Option Float :=
  let word := String.ofList (cs.map Char.toLower)
  if word = "inf" ∨ word = "infinity" then some infinity
  else if word = "nan" then some (0.0 / 0.0)
  else none

/--
Reads a float: an optional sign and a number with digits before or after the point, an infinity or
a NaN.
-/
def float? (s : String) : Option Float :=
  let (negative, cs) := takeSign s.toList
  let value := (named? cs).orElse fun _ => magnitude? cs
  value.map fun x => if negative then -x else x

/-- Reads a natural number below `bound`; a plus sign may stand in front. -/
def natural? (bound : Nat) (s : String) : Option Nat :=
  let digits := match s.toList with
    | '+' :: cs => cs
    | cs => cs
  if digits = [] ∨ !digits.all Char.isDigit then none
  else
    let n := digitsValue digits
    if n < bound then some n else none

/-- Reads an integer of 64 bits; a sign may stand in front. -/
def integer? (s : String) : Option Int :=
  let (negative, digits) := takeSign s.toList
  if digits = [] ∨ !digits.all Char.isDigit then none
  else
    let n := digitsValue digits
    if negative then (if n ≤ Nat.pow 2 63 then some (-(n : Int)) else none)
    else if n < Nat.pow 2 63 then some n else none

end Whereabouts.Decimal
