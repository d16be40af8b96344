import Mathlib.Analysis.SpecialFunctions.Trigonometric.Inverse
import Whereabouts.Geometry.Shape
import Whereabouts.Proofs.Geometry.Lawful

/-!
# Reals as scalars

The instance in which coordinates, distances and sizes are what they stand for, without rounding.
No real is infinite: what is infinitely far away on doubles has no place here, and no statement about
reals uses it.
-/

namespace Whereabouts

open Classical in
noncomputable instance : Scalar ℝ where
  decLe _ _ := inferInstance
  decLt _ _ := inferInstance
  beq a b := decide (a = b)
  rank := compare
  isFinite _ := true
  infinity := 0
  pi := Real.pi
  sqrt := Real.sqrt
  sin := Real.sin
  cos := Real.cos
  asin := Real.arcsin
  remainder a b := a - b * ⌊a / b⌋
  turn a b c := compare ((a.1 - c.1) * (b.2 - c.2)) ((a.2 - c.2) * (b.1 - c.1))

instance : Std.TransCmp (Scalar.rank (α := ℝ)) :=
  inferInstanceAs (Std.TransCmp (compare : ℝ → ℝ → Ordering))

instance : LawfulScalar ℝ where
  le_self _ := le_refl _
  le_trans := le_trans
  not_lt := not_lt.2
  le_of_not_lt _ nlt := not_lt.1 nlt
  beq_self _ := decide_eq_true rfl
  sub_le _ nonneg := by
    norm_num at nonneg
    linarith
  le_add _ nonneg := by
    norm_num at nonneg
    linarith
  sub_self_le _ := by norm_num
  zero_le_tenth := by norm_num
  zero_lt_circle := by norm_num

/-- The area within a ring on the plane of the coordinates. -/
noncomputable def Ring.planeArea (ring : List (Point ℝ)) : ℝ :=
  |((Ring.segments ring).map fun (a, b) => a.lon * b.lat - b.lon * a.lat).sum| / 2

/-- On the reals a polygon is measured on the plane of its coordinates. -/
noncomputable instance : Measured ℝ where
  polygonArea polygon :=
    Ring.planeArea polygon.exterior - (polygon.holes.map Ring.planeArea).sum

end Whereabouts
