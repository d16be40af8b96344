import Whereabouts.Decimal.Fixed

/-!
# The shortest digits of a double

`Binary.shortest` gives the fewest significant digits that read back as the same double and, of
those, the ones nearest to it. Two layouts use them: `plain` never writes an exponent, `scientific`
writes one outside a middle range and marks whole numbers with a point.
-/

namespace Whereabouts.Decimal

/-- Significant digits `digits` with the value `digits * 10 ^ exponent`. -/
structure Digits where
  digits : Nat
  exponent : Int
deriving DecidableEq, Repr

namespace Binary

/--
The numbers that read back as `b` lie between half a unit below and above it; all three bounds are
given as multiples of `2 ^ (exponent - 2)`, and the flag tells whether the ends belong to it.
-/
def interval (b : Binary) : Nat × Nat × Nat × Bool :=
  let narrow := b.mantissa = fractionBits ∧ -1074 < b.exponent
  let below := if narrow then 4 * b.mantissa - 1 else 4 * b.mantissa - 2
  (below, 4 * b.mantissa, 4 * b.mantissa + 2, b.mantissa % 2 = 0)

/--
A number of the grid `10 ^ scale` that reads back as `b`: of the neighbours of `b` on the grid the
nearer one that lies in the interval, the upper one on a tie.
-/
def onGrid? (b : Binary) (scale : Int) : Option Nat :=
  let (low, mid, high, closed) := b.interval
  let twos := b.exponent - 2
  -- A bound `t * 2 ^ twos` and a grid point `d * 10 ^ scale` are compared as integers.
  let scaleUp (t : Nat) : Nat := t * Nat.pow 2 twos.toNat * Nat.pow 10 (-scale).toNat
  let unit : Nat := Nat.pow 2 (-twos).toNat * Nat.pow 10 scale.toNat
  let value := scaleUp mid
  let down := value / unit
  let up := if value % unit = 0 then down else down + 1
  let inside (d : Nat) : Bool :=
    let p := d * unit
    d ≠ 0 && (if closed then scaleUp low ≤ p && p ≤ scaleUp high
      else scaleUp low < p && p < scaleUp high)
  match inside down, inside up with
  | true, true => if value - down * unit < up * unit - value then some down else some up
  | true, false => some down
  | false, true => some up
  | false, false => none

/-- The exponent of the leading decimal digit of a positive number. -/
def leading (b : Binary) : Int :=
  let (num, den) := b.ratio
  if den ≤ num then ((Nat.repr (num / den)).length : Int) - 1
  else
    let inverse := den / num
    let guess := (Nat.repr inverse).length
    if Nat.pow 10 (guess - 1) * num = den then -((guess : Int) - 1) else -(guess : Int)

/-- Tries grids of growing fineness, `tries` of them from `scale` downwards. -/
def search (b : Binary) : Nat → Int → Digits
  | 0, scale => ⟨(b.onGrid? scale).getD 0, scale⟩
  | tries + 1, scale =>
    match b.onGrid? scale with
    | some d => ⟨d, scale⟩
    | none => search b tries (scale - 1)

/-- Moves zeros at the end of the digits into the exponent. -/
def trimmed : Nat → Digits → Digits
  | 0, d => d
  | n + 1, d =>
    if d.digits ≠ 0 ∧ d.digits % 10 = 0 then trimmed n ⟨d.digits / 10, d.exponent + 1⟩ else d

/-- The shortest digits of a double; zero has the single digit `0`. -/
def shortest (b : Binary) : Digits :=
  if b.mantissa = 0 then ⟨0, 0⟩ else trimmed 20 (b.search 18 (b.leading + 1))

end Binary

/-- `digits * 10 ^ exponent` written without an exponent and without a needless point. -/
def Digits.plain (d : Digits) : String :=
  let text := Nat.repr d.digits
  if 0 ≤ d.exponent then
    if d.digits = 0 then "0" else text ++ String.ofList (List.replicate d.exponent.toNat '0')
  else
    let places := (-d.exponent).toNat
    if places < text.length then
      String.ofList (text.toList.take (text.length - places)) ++ "."
        ++ String.ofList (text.toList.drop (text.length - places))
    else "0." ++ padded places d.digits

/-- The least and the greatest exponent of a leading digit that is written without an exponent. -/
def plainRange : Int × Int := (-5, 15)

/-- Whole numbers end in `.0`; very large and very small ones are written with an exponent. -/
def Digits.scientific (d : Digits) : String :=
  let text := Nat.repr d.digits
  let lead := d.exponent + text.length - 1
  if d.digits = 0 then "0.0"
  else if plainRange.1 ≤ lead ∧ lead ≤ plainRange.2 then
    if 0 ≤ d.exponent then d.plain ++ ".0" else d.plain
  else
    let point := if text.length = 1 then text
      else String.ofList (text.toList.take 1) ++ "." ++ String.ofList (text.toList.drop 1)
    point ++ "e" ++ (if lead < 0 then "-" else "+") ++ Nat.repr lead.natAbs

/-- The shortest text of a double that has no exponent. -/
def plain (x : Float) : String :=
  match Binary.ofFloat? x with
  | some b => (if b.negative then "-" else "") ++ b.shortest.plain
  | none => nonFinite x

/-- The shortest text of a double as data formats write it, with an exponent where it is long. -/
def scientific (x : Float) : String :=
  match Binary.ofFloat? x with
  | some b => (if b.negative then "-" else "") ++ b.shortest.scientific
  | none => nonFinite x

end Whereabouts.Decimal
