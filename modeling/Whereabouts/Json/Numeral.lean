import Whereabouts.Decimal.Reading
import Whereabouts.Json.Basic

/-!
# Numbers as JSON writes them

A `Numeral` is the text of a number. Its value is an integer where it is one of 64 bits, and else a
double: the first digits that fit 64 bits, scaled once by a power of ten. A number beyond the range
of doubles has no value.
-/

namespace Whereabouts.Json

/-- The parts of a number; the digits of the exponent come with the sign of the exponent. -/
structure Numeral where
  negative : Bool
  whole : List Char
  fraction : Option (List Char)
  exponent : Option (Bool × List Char)
deriving DecidableEq, Repr

namespace Numeral

def significandBound : Nat := Nat.pow 2 64

/-- Takes digits while the number they make stays below the bound; what is left over follows. -/
def takeSignificand (n : Nat) : List Char → Nat × List Char
  | [] => (n, [])
  | c :: cs =>
    let next := 10 * n + Decimal.digitsValue [c]
    if next < significandBound then takeSignificand next cs else (n, c :: cs)

def powerOfTen (n : Nat) : Float := Float.ofScientific 1 false n

/-- `x / 10 ^ n`, in steps of at most `10 ^ 308`. -/
def shrink (x : Float) (n : Nat) : Float :=
  if n ≤ 308 then x / powerOfTen n
  else
    let y := x / powerOfTen 308
    if n ≤ 616 then y / powerOfTen (n - 308) else 0.0

/-- `significand * 10 ^ exponent`, `none` where it is beyond the doubles. -/
def scale? (significand : Nat) (exponent : Int) : Option Float :=
  let x := significand.toFloat
  if significand = 0 then some 0.0
  else if exponent < 0 then some (shrink x (-exponent).toNat)
  else if 308 < exponent then none
  else
    let y := x * powerOfTen exponent.toNat
    if y.isInf then none else some y

def exponentValue (n : Numeral) : Int :=
  match n.exponent with
  | none => 0
  | some (negative, digits) =>
    if negative then -(Decimal.digitsValue digits : Int) else Decimal.digitsValue digits

/-- The value of the number, `none` where it is beyond the doubles. -/
def value? (n : Numeral) : Option Number :=
  let (significand, dropped) := takeSignificand 0 n.whole
  let (significand', droppedFraction) := takeSignificand significand (n.fraction.getD [])
  let float : Option Number :=
    (scale? significand'
      (dropped.length - ((n.fraction.getD []).length - droppedFraction.length : Nat)
        + n.exponentValue)).map
      fun x => .float (if n.negative then -x else x)
  if n.fraction.isSome ∨ n.exponent.isSome ∨ dropped ≠ [] then float
  else if !n.negative then some (.int significand)
  else if significand = 0 ∨ Nat.pow 2 63 < significand then float
  else some (.int (-(significand : Int)))

end Numeral

end Whereabouts.Json
