import Whereabouts.Geometry.Binary64

/-!
# Angles

Angles in degrees, reduced without rounding, and angles as unit vectors of their sine and cosine.
-/

namespace Whereabouts.Geometry

/-- An angle given by a vector in its direction. -/
structure Angle where
  sin : Float
  cos : Float

def hypotenuse (x y : Float) : Float := (x * x + y * y).sqrt

namespace Angle

def unit (a : Angle) : Angle :=
  let r := hypotenuse a.sin a.cos
  ⟨a.sin / r, a.cos / r⟩

/-- The angle of a number of degrees; multiples of a right angle are exact. -/
def ofDegrees (degrees : Float) : Angle :=
  let whole := truncatedRemainder degrees 360.0
  let quarter := (whole / 90.0).round
  let r := (whole - 90.0 * quarter) * (3.14159265358979323846 / 180.0)
  let s := r.sin
  let c := r.cos
  let turned : Angle :=
    if quarter == 0.0 || quarter == 4.0 || quarter == -4.0 then ⟨s, c⟩
    else if quarter == 1.0 || quarter == -3.0 then ⟨c, -s⟩
    else if quarter == 2.0 || quarter == -2.0 then ⟨-s, -c⟩
    else ⟨-c, s⟩
  ⟨turned.sin, turned.cos + 0.0⟩

def radians (a : Angle) : Float := Float.atan2 a.sin a.cos

end Angle

namespace Degrees

/-- Moves numbers close to zero onto a coarse grid, so that tiny angles do not underflow. -/
def rounded (x : Float) : Float :=
  let z := 1.0 / 16.0
  let y := x.abs
  let y := if y < z then z - (z - y) else y
  if x == 0.0 then 0.0 else if x < 0.0 then -y else y

/-- The angle between -180 (excluded) and 180 (included). -/
def reduced (x : Float) : Float :=
  let r := truncatedRemainder x 360.0
  let y := if r > 180.0 then r - 360.0 else if r < -180.0 then r + 360.0 else r
  if y == -180.0 then 180.0 else y

def sumWithError (u v : Float) : Float × Float :=
  let s := u + v
  let up := s - v
  let vpp := s - up
  (s, -((up - u) + (vpp - v)))

/-- The way from the first to the second longitude in degrees, and the rounding error of it. -/
def difference (x y : Float) : Float × Float :=
  let (d, t) := sumWithError (reduced (-x)) (reduced y)
  let d := reduced d
  sumWithError (if d == 180.0 && t > 0.0 then -180.0 else d) t

end Degrees

end Whereabouts.Geometry
