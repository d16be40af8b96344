import Whereabouts.Decimal.Binary
import Whereabouts.Scalar

/-!
# Doubles as scalars

The instance that programs run on. Remainders and turns are computed on the exact values of the
doubles, so that neither is touched by rounding; `rank` sorts by the bits, negative zero before
zero. All NaNs have the same bits, whatever their sign was, and come last, after infinity.
-/

namespace Whereabouts.Geometry

open Decimal (Binary)

/-- The place of a double in the total order of doubles. -/
def rankKey (x : Float) : Int :=
  let bits := x.toBits.toNat
  if bits < Nat.pow 2 63 then bits else -((bits - Nat.pow 2 63 : Nat) : Int) - 1

/-- The remainder of `a / b` with the sign of `a`, without rounding. -/
def truncatedRemainder (a b : Float) : Float :=
  match Binary.ofFloat? a, Binary.ofFloat? b with
  | some m, some n =>
    if n.mantissa = 0 then 0.0 / 0.0
    else
      let e := min m.exponent n.exponent
      let rest := (m.scaledTo e).tmod (n.scaledTo e)
      if rest = 0 then (if m.negative then -0.0 else 0.0) else Binary.toFloat rest e
  | some _, none => if b.isNaN then b else a
  | none, _ => 0.0 / 0.0

/-- The remainder of `a / b` that is not negative. -/
def remainder (a b : Float) : Float :=
  let rest := truncatedRemainder a b
  if rest < 0 then rest + b.abs else rest

/-- The turn from `a` over `b` to `c`, by the exact sign of the cross product. -/
def turn (a b c : Float × Float) : Ordering :=
  match Binary.ofFloat? a.1, Binary.ofFloat? a.2, Binary.ofFloat? b.1, Binary.ofFloat? b.2,
      Binary.ofFloat? c.1, Binary.ofFloat? c.2 with
  | some ax, some ay, some bx, some by', some cx, some cy =>
    let e := [ax, ay, bx, by', cx, cy].foldl (fun e m => min e m.exponent) ax.exponent
    let left := (ax.scaledTo e - cx.scaledTo e) * (by'.scaledTo e - cy.scaledTo e)
    let right := (ay.scaledTo e - cy.scaledTo e) * (bx.scaledTo e - cx.scaledTo e)
    compare left right
  | _, _, _, _, _, _ => .eq

instance : Scalar Float where
  decLe _ _ := inferInstance
  decLt _ _ := inferInstance
  rank a b := compare (rankKey a) (rankKey b)
  isFinite x := x.isFinite
  infinity := 1.0 / 0.0
  pi := 3.14159265358979323846
  sqrt := Float.sqrt
  sin := Float.sin
  cos := Float.cos
  asin := Float.asin
  remainder := remainder
  turn := turn

end Whereabouts.Geometry
