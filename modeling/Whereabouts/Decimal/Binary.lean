/-!
# Exact values of doubles

A finite double is an integer times a power of two. `Binary.ofFloat?` reads that pair off the
64 bits; every exact computation on doubles in this library (printing, remainders, orientation of
points) starts from it.
-/

namespace Whereabouts.Decimal

/-- The number `±mantissa * 2 ^ exponent`; the sign is kept apart so that a negative zero exists. -/
structure Binary where
  negative : Bool
  mantissa : Nat
  exponent : Int
deriving DecidableEq, Repr

namespace Binary

def fractionBits : Nat := Nat.pow 2 52

/-- The exact value of a finite double, `none` for an infinity or a NaN. -/
def ofFloat? (x : Float) : Option Binary :=
  let bits := x.toBits.toNat
  let negative := bits / Nat.pow 2 63 == 1
  let field : Nat := bits / fractionBits % Nat.pow 2 11
  let fraction := bits % fractionBits
  if field = 2047 then none
  else if field = 0 then some ⟨negative, fraction, -1074⟩
  else some ⟨negative, fractionBits + fraction, Int.ofNat field - 1075⟩

def signed (b : Binary) : Int :=
  if b.negative then -(b.mantissa : Int) else b.mantissa

/-- The signed mantissa once the exponent is lowered to `e`, for `e` at most the exponent. -/
def scaledTo (b : Binary) (e : Int) : Int :=
  b.signed * Nat.pow 2 (b.exponent - e).toNat

/-- The magnitude as a numerator and a denominator. -/
def ratio (b : Binary) : Nat × Nat :=
  if 0 ≤ b.exponent then (b.mantissa * Nat.pow 2 b.exponent.toNat, 1)
  else (b.mantissa, Nat.pow 2 (-b.exponent).toNat)

def toFloat (n : Int) (e : Int) : Float :=
  (Float.ofInt n).scaleB e

end Binary

end Whereabouts.Decimal
