import Whereabouts.Geometry.Ellipsoid.Angle

/-!
# The earth as an ellipsoid, and its series

The constants of the ellipsoid WGS84 and the series, to sixth order in the flattening, by which
lengths, longitudes and areas along a geodesic are computed.
-/

namespace Whereabouts.Geometry.Ellipsoid

def equatorialRadius : Float := 6378137.0

def flattening : Float := 1.0 / (298257223563.0 / 1000000000.0)

def axisRatio : Float := 1.0 - flattening

def eccentricitySq : Float := flattening * (2.0 - flattening)

def secondEccentricitySq : Float := eccentricitySq / (axisRatio * axisRatio)

def thirdFlattening : Float := flattening / (2.0 - flattening)

def polarRadius : Float := equatorialRadius * axisRatio

/-- The square of the radius of the sphere that has the same surface. -/
def authalicRadiusSq : Float :=
  let e := eccentricitySq.sqrt
  (equatorialRadius * equatorialRadius + polarRadius * polarRadius * (e.atanh / e)) / 2.0

/-- The surface of the ellipsoid in square metres. -/
def surface : Float := 4.0 * 3.14159265358979323846 * authalicRadiusSq

/-- A fraction whose numerator is a polynomial; the coefficient of the highest power comes first. -/
structure Ratio where
  numerator : List Float
  denominator : Float

/-- The value of a polynomial, highest power first. -/
def polynomial (coefficients : List Float) (x : Float) : Float :=
  match coefficients with
  | [] => 0.0
  | c :: cs => cs.foldl (fun y c => y * x + c) c

def Ratio.at (r : Ratio) (x : Float) : Float := polynomial r.numerator x / r.denominator

/-- Multiplies the fractions, taken at the square of `eps`, by the powers of `eps` from the first
on. -/
def powerSeries (ratios : List Ratio) (eps : Float) : List Float :=
  let step := fun (acc : List Float × Float) (r : Ratio) =>
    (r.at (eps * eps) * acc.2 :: acc.1, acc.2 * eps)
  (ratios.foldl step ([], eps)).1.reverse

def distanceScale (eps : Float) : Float :=
  let t := (Ratio.mk [1.0, 4.0, 64.0, 0.0] 256.0).at (eps * eps)
  (t + eps) / (1.0 - eps)

def distanceCoefficients : List Ratio :=
  [⟨[-1.0, 6.0, -16.0], 32.0⟩, ⟨[-9.0, 64.0, -128.0], 2048.0⟩, ⟨[9.0, -16.0], 768.0⟩,
    ⟨[3.0, -5.0], 512.0⟩, ⟨[-7.0], 1280.0⟩, ⟨[-7.0], 2048.0⟩]

def reducedScale (eps : Float) : Float :=
  let t := (Ratio.mk [-11.0, -28.0, -192.0, 0.0] 256.0).at (eps * eps)
  (t - eps) / (1.0 + eps)

/-- The coefficients of the integral of reduced lengths. -/
def reducedCoefficients : List Ratio :=
  [⟨[1.0, 2.0, 16.0], 32.0⟩, ⟨[35.0, 64.0, 384.0], 2048.0⟩, ⟨[15.0, 80.0], 768.0⟩,
    ⟨[7.0, 35.0], 512.0⟩, ⟨[63.0], 1280.0⟩, ⟨[77.0], 2048.0⟩]

/-- The coefficients of the scale of longitudes, highest power of `eps` first. -/
def longitudeScaleTable : List Float :=
  ([⟨[-3.0], 128.0⟩, ⟨[-2.0, -3.0], 64.0⟩, ⟨[-1.0, -3.0, -1.0], 16.0⟩, ⟨[3.0, -1.0, -2.0], 8.0⟩,
    ⟨[1.0, -1.0], 2.0⟩, ⟨[1.0], 1.0⟩] : List Ratio).map (·.at thirdFlattening)

def longitudeScale (eps : Float) : Float := polynomial longitudeScaleTable eps

/-- The coefficients of the longitude integral, one polynomial for each term. -/
def longitudeTable : List (List Float) :=
  ([[⟨[3.0], 128.0⟩, ⟨[2.0, 5.0], 128.0⟩, ⟨[-1.0, 3.0, 3.0], 64.0⟩, ⟨[-1.0, 0.0, 1.0], 8.0⟩,
      ⟨[-1.0, 1.0], 4.0⟩],
    [⟨[5.0], 256.0⟩, ⟨[1.0, 3.0], 128.0⟩, ⟨[-3.0, -2.0, 3.0], 64.0⟩, ⟨[1.0, -3.0, 2.0], 32.0⟩],
    [⟨[7.0], 512.0⟩, ⟨[-10.0, 9.0], 384.0⟩, ⟨[5.0, -9.0, 5.0], 192.0⟩],
    [⟨[7.0], 512.0⟩, ⟨[-14.0, 7.0], 512.0⟩],
    [⟨[21.0], 2560.0⟩]] : List (List Ratio)).map fun row => row.map (·.at thirdFlattening)

/-- The coefficients of the area integral, one polynomial for each term. -/
def areaTable : List (List Float) :=
  ([[⟨[97.0], 15015.0⟩, ⟨[1088.0, 156.0], 45045.0⟩, ⟨[-224.0, -4784.0, 1573.0], 45045.0⟩,
      ⟨[-10656.0, 14144.0, -4576.0, -858.0], 45045.0⟩,
      ⟨[64.0, 624.0, -4576.0, 6864.0, -3003.0], 15015.0⟩,
      ⟨[100.0, 208.0, 572.0, 3432.0, -12012.0, 30030.0], 45045.0⟩],
    [⟨[1.0], 9009.0⟩, ⟨[-2944.0, 468.0], 135135.0⟩, ⟨[5792.0, 1040.0, -1287.0], 135135.0⟩,
      ⟨[5952.0, -11648.0, 9152.0, -2574.0], 135135.0⟩,
      ⟨[-64.0, -624.0, 4576.0, -6864.0, 3003.0], 135135.0⟩],
    [⟨[8.0], 10725.0⟩, ⟨[1856.0, -936.0], 225225.0⟩, ⟨[-8448.0, 4992.0, -1144.0], 225225.0⟩,
      ⟨[-1440.0, 4160.0, -4576.0, 1716.0], 225225.0⟩],
    [⟨[-136.0], 63063.0⟩, ⟨[1024.0, -208.0], 105105.0⟩, ⟨[3584.0, -3328.0, 1144.0], 315315.0⟩],
    [⟨[-128.0], 135135.0⟩, ⟨[-2560.0, 832.0], 405405.0⟩],
    [⟨[128.0], 99099.0⟩]] : List (List Ratio)).map fun row => row.map (·.at thirdFlattening)

/-- The polynomials of a table at `eps`, multiplied by the powers of `eps` from the first or from
the power zero. -/
def tableSeries (table : List (List Float)) (eps first : Float) : List Float :=
  let step := fun (acc : List Float × Float) (row : List Float) =>
    (acc.2 * polynomial row eps :: acc.1, acc.2 * eps)
  (table.foldl step ([], first)).1.reverse

def sineSeries (x : Angle) (c : List Float) : Float :=
  let ar := 2.0 * (x.cos - x.sin) * (x.cos + x.sin)
  let sums := c.reverse.foldl (fun (y : Float × Float) c => (ar * y.1 - y.2 + c, y.1)) (0.0, 0.0)
  2.0 * x.sin * x.cos * sums.1

/-- `sum c_l cos ((2 l + 1) x)` for `l` from zero. -/
def cosineSeries (x : Angle) (c : List Float) : Float :=
  let ar := 2.0 * (x.cos - x.sin) * (x.cos + x.sin)
  let sums := c.reverse.foldl (fun (y : Float × Float) c => (ar * y.1 - y.2 + c, y.1)) (0.0, 0.0)
  x.cos * (sums.1 - sums.2)

end Whereabouts.Geometry.Ellipsoid
