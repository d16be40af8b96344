import Whereabouts.Decimal.Binary

/-!
# Numbers with a fixed count of decimal places

A double is printed with `places` digits after the point, rounded on its exact value, a half going
to the even neighbour.
-/

namespace Whereabouts.Decimal

/-- The integer nearest to `num / den`, a half going to the even one. -/
def roundDiv (num den : Nat) : Nat :=
  let q := num / den
  let twice := 2 * (num % den)
  if twice < den then q
  else if den < twice then q + 1
  else if q % 2 = 0 then q else q + 1

/-- The decimal digits of `n`, padded with zeros on the left up to `width`. -/
def padded (width n : Nat) : String :=
  let digits := Nat.repr n
  String.ofList (List.replicate (width - digits.length) '0') ++ digits

/-- The magnitude of `b` with `places` decimals, without a sign. -/
def Binary.fixedMagnitude (places : Nat) (b : Binary) : String :=
  let (num, den) := b.ratio
  let units := roundDiv (num * Nat.pow 10 places) den
  let whole := Nat.repr (units / Nat.pow 10 places)
  if places = 0 then whole else whole ++ "." ++ padded places (units % Nat.pow 10 places)

/-- The text of a double that is no finite number. -/
def nonFinite (x : Float) : String :=
  if x.isNaN then "NaN" else if x < 0 then "-inf" else "inf"

/-- `x` with `places` decimals; a negative number keeps its sign even where it rounds to zero. -/
def fixed (places : Nat) (x : Float) : String :=
  match Binary.ofFloat? x with
  | some b => (if b.negative then "-" else "") ++ b.fixedMagnitude places
  | none => nonFinite x

end Whereabouts.Decimal
