import Whereabouts.Geometry.Ellipsoid.Series

/-!
# Geodesics on the ellipsoid

`areaBelow` is the area between the shortest line joining two points and the equator. The line is
found by its azimuth at the first point: a first guess is improved by Newton's method on the
longitude that it reaches, inside a bracket that shrinks where a step fails.
-/

namespace Whereabouts.Geometry.Ellipsoid

def pi : Float := 3.14159265358979323846

def tiny : Float := (2.2250738585072014e-308 : Float).sqrt

def unitError : Float := 2.220446049250313e-16

def rootError : Float := unitError.sqrt

def sq (x : Float) : Float := x * x

def greater (x y : Float) : Float := if x < y then y else x

/-- An end of a geodesic: its reduced latitude and the factor of its radius. -/
structure Station where
  beta : Angle
  stretch : Float

/-- The expansion parameter of the series for a geodesic that leaves the equator at this angle. -/
def expansion (cosEquatorAzimuth : Float) : Float :=
  let k2 := sq cosEquatorAzimuth * secondEccentricitySq
  k2 / (2.0 * (1.0 + (1.0 + k2).sqrt) + k2)

/-- The reduced length of a piece of a geodesic, for an earth of polar radius one. -/
def reducedLength (eps arc : Float) (sigma1 sigma2 : Angle) (stretch1 stretch2 : Float) : Float :=
  let scale1 := distanceScale eps
  let c1 := powerSeries distanceCoefficients eps
  let scale2 := reducedScale eps
  let c2 := powerSeries reducedCoefficients eps
  let m0 := scale1 - scale2
  let c := (c1.zip c2).map fun (x, y) => (1.0 + scale1) * x - (1.0 + scale2) * y
  let j := m0 * arc + (sineSeries sigma2 c - sineSeries sigma1 c)
  stretch2 * (sigma1.cos * sigma2.sin) - stretch1 * (sigma1.sin * sigma2.cos)
    - sigma1.cos * sigma2.cos * j

/-- The positive root of the quartic that a geodesic to the opposite side of the earth solves. -/
def astroid (x y : Float) : Float :=
  let p := sq x
  let q := sq y
  let r := (p + q - 1.0) / 6.0
  if q == 0.0 && r <= 0.0 then 0.0
  else
    let s := p * q / 4.0
    let r2 := sq r
    let r3 := r * r2
    let disc := s * (s + 2.0 * r3)
    let u :=
      if disc >= 0.0 then
        let t3 := s + r3
        let t3 := t3 + (if t3 < 0.0 then -disc.sqrt else disc.sqrt)
        let t := t3.cbrt
        r + t + (if t == 0.0 then 0.0 else r2 / t)
      else
        let angle := Float.atan2 (-disc).sqrt (-(s + r3))
        r + 2.0 * r * (angle / 3.0).cos
    let v := (sq u + q).sqrt
    let uv := if u < 0.0 then q / (v - u) else u + v
    let w := (uv - q) / (2.0 * v)
    uv / ((uv + sq w).sqrt + w)

/-- What the search starts from: the azimuth at the first end, and for a very short line also the
azimuth at the other end and the angle of longitude on the sphere. -/
structure Guess where
  azimuth1 : Angle
  short : Option (Angle × Float)

/-- A first guess at the azimuth of the line between two stations. -/
def guess (p q : Station) (lam12 : Float) (lam : Angle) : Guess :=
  let b1 := p.beta
  let b2 := q.beta
  let sbet12 := b2.sin * b1.cos - b2.cos * b1.sin
  let cbet12 := b2.cos * b1.cos + b2.sin * b1.sin
  let sbet12a := b2.sin * b1.cos + b2.cos * b1.sin
  let shortline := cbet12 >= 0.0 && sbet12 < 0.5 && b2.cos * lam12 < 0.5
  let sbetm2 := sq (b1.sin + b2.sin)
  let sbetm2 := sbetm2 / (sbetm2 + sq (b1.cos + b2.cos))
  let dnm := (1.0 + secondEccentricitySq * sbetm2).sqrt
  let omega12 := lam12 / (axisRatio * dnm)
  let omega : Angle := if shortline then ⟨omega12.sin, omega12.cos⟩ else lam
  let azimuth : Angle :=
    ⟨b2.cos * omega.sin,
      if omega.cos >= 0.0 then sbet12 + b2.cos * b1.sin * sq omega.sin / (1.0 + omega.cos)
      else sbet12a - b2.cos * b1.sin * sq omega.sin / (1.0 - omega.cos)⟩
  let sigma : Angle :=
    ⟨hypotenuse azimuth.sin azimuth.cos, b1.sin * b2.sin + b1.cos * b2.cos * omega.cos⟩
  let shortBound := 0.1 * rootError
    / ((greater 0.001 flattening) * (1.0 - flattening / 2.0) / 2.0).sqrt
  let settle (a : Angle) : Angle := if a.sin <= 0.0 then ⟨1.0, 0.0⟩ else a.unit
  if shortline && sigma.sin < shortBound then
    let azimuth2 : Angle :=
      ⟨b1.cos * omega.sin,
        sbet12 - b1.cos * b2.sin
          * (if omega.cos >= 0.0 then sq omega.sin / (1.0 + omega.cos) else 1.0 - omega.cos)⟩
    ⟨settle azimuth, some (azimuth2.unit, omega12)⟩
  else if sigma.cos >= 0.0 || sigma.sin >= 6.0 * thirdFlattening * pi * sq b1.cos then
    ⟨settle azimuth, none⟩
  else
    -- The ends lie almost opposite each other.
    let lam12x := Float.atan2 (-lam.sin) (-lam.cos)
    let k2 := sq b1.sin * secondEccentricitySq
    let eps := k2 / (2.0 * (1.0 + (1.0 + k2).sqrt) + k2)
    let lamscale := flattening * b1.cos * longitudeScale eps * pi
    let x := lam12x / lamscale
    let y := sbet12a / (lamscale * b1.cos)
    if y > -(200.0 * unitError) && x > -1.0 - 1000.0 * rootError then
      let s := if -x < 1.0 then -x else 1.0
      ⟨settle ⟨s, -(1.0 - sq s).sqrt⟩, none⟩
    else
      let k := astroid x y
      let omega12a := lamscale * (-x * k / (1.0 + k))
      let somg := omega12a.sin
      let comg := -omega12a.cos
      ⟨settle ⟨b2.cos * somg, sbet12a - b2.cos * b1.sin * sq somg / (1.0 - comg)⟩, none⟩

/-- The line that leaves the first station in a direction, up to the latitude of the second. -/
structure Course where
  azimuth1 : Angle
  azimuth2 : Angle
  /-- By how much the longitude reached is off. -/
  miss : Float
  /-- The derivative of the miss by the azimuth. -/
  slope : Float
  /-- The difference between the longitudes on the ellipsoid and on the sphere. -/
  correction : Float

/-- Follows a direction from the first station to the latitude of the second. -/
def course (p q : Station) (lam : Angle) (azimuth : Angle) : Course :=
  let b1 := p.beta
  let b2 := q.beta
  let calp1 := if b1.sin == 0.0 && azimuth.cos == 0.0 then -tiny else azimuth.cos
  let salp1 := azimuth.sin
  let salp0 := salp1 * b1.cos
  let calp0 := hypotenuse calp1 (salp1 * b1.sin)
  let somg1 := salp0 * b1.sin
  let comg1 := calp1 * b1.cos
  let sigma1 := Angle.unit ⟨b1.sin, comg1⟩
  let salp2 := if b2.cos != b1.cos then salp0 / b2.cos else salp1
  let calp2 :=
    if b2.cos != b1.cos || b2.sin.abs != -b1.sin then
      (sq (calp1 * b1.cos)
        + (if b1.cos < -b1.sin then (b2.cos - b1.cos) * (b1.cos + b2.cos)
          else (b1.sin - b2.sin) * (b1.sin + b2.sin))).sqrt / b2.cos
    else calp1.abs
  let somg2 := salp0 * b2.sin
  let comg2 := calp2 * b2.cos
  let sigma2 := Angle.unit ⟨b2.sin, comg2⟩
  let sig12 := Float.atan2 (greater 0.0 (sigma1.cos * sigma2.sin - sigma1.sin * sigma2.cos))
    (sigma1.cos * sigma2.cos + sigma1.sin * sigma2.sin)
  let somg12 := greater 0.0 (comg1 * somg2 - somg1 * comg2)
  let comg12 := comg1 * comg2 + somg1 * somg2
  let eta := Float.atan2 (somg12 * lam.cos - comg12 * lam.sin) (comg12 * lam.cos + somg12 * lam.sin)
  let eps := expansion calp0
  let c3 := tableSeries longitudeTable eps eps
  let b312 := sineSeries sigma2 c3 - sineSeries sigma1 c3
  let correction := -flattening * longitudeScale eps * salp0 * (sig12 + b312)
  let slope :=
    if calp2 == 0.0 then -2.0 * axisRatio * p.stretch / b1.sin
    else reducedLength eps sig12 sigma1 sigma2 p.stretch q.stretch * (axisRatio / (calp2 * b2.cos))
  ⟨⟨salp1, calp1⟩, ⟨salp2, calp2⟩, eta + correction, slope, correction⟩

/-- The bracket of the search and what is known of its progress. -/
structure Search where
  azimuth : Angle
  low : Angle
  high : Angle
  tripleNear : Bool
  collapsed : Bool

/-- How many Newton steps are tried before the bracket is only halved. -/
def newtonSteps : Nat := 20

/-- Improves the azimuth until the longitude fits, for `steps` steps at most. -/
def improve (p q : Station) (lam : Angle) : Nat → Nat → Search → Course
  | 0, _, s => course p q lam s.azimuth
  | steps + 1, taken, s =>
    let c := course p q lam s.azimuth
    let close := !(c.miss.abs >= (if s.tripleNear then 8.0 else 1.0) * unitError)
    if s.collapsed || close then c
    else
      let a := s.azimuth
      let late := taken > newtonSteps
      let ratio (x : Angle) : Float := x.cos / x.sin
      let raise := c.miss > 0.0 && (late || ratio a > ratio s.high)
      let lower := !raise && c.miss < 0.0 && (late || ratio a < ratio s.low)
      let high := if raise then a else s.high
      let low := if lower then a else s.low
      let dalp := -c.miss / c.slope
      let nsalp := a.sin * dalp.cos + a.cos * dalp.sin
      if taken + 1 < newtonSteps && c.slope > 0.0 && nsalp > 0.0 && dalp.abs < pi then
        let next := Angle.unit ⟨nsalp, a.cos * dalp.cos - a.sin * dalp.sin⟩
        improve p q lam steps (taken + 1)
          ⟨next, low, high, c.miss.abs <= 16.0 * unitError, s.collapsed⟩
      else
        let next := Angle.unit ⟨(low.sin + high.sin) / 2.0, (low.cos + high.cos) / 2.0⟩
        let bound := unitError * rootError
        let collapsed := (low.sin - next.sin).abs + (low.cos - next.cos) < bound
          || (next.sin - high.sin).abs + (next.cos - high.cos) < bound
        improve p q lam steps (taken + 1) ⟨next, low, high, false, collapsed⟩

/-- The azimuths of a line at its two ends, and its angle of longitude on the sphere where the line
does not follow a meridian. -/
structure Line where
  azimuth1 : Angle
  azimuth2 : Angle
  omega : Option Angle

/-- The shortest line between two stations that are `degrees` of longitude apart. -/
def line (p q : Station) (polar : Bool) (degrees supplement : Float) : Line :=
  let lam12 := degrees * (pi / 180.0)
  let lam : Angle :=
    if degrees > 90.0 then
      let a := Angle.ofDegrees supplement
      ⟨a.sin, -a.cos⟩
    else Angle.ofDegrees degrees
  let b1 := p.beta
  let b2 := q.beta
  let sigma1 : Angle := ⟨b1.sin, lam.cos * b1.cos⟩
  let sigma2 : Angle := ⟨b2.sin, b2.cos⟩
  let sig12 := Float.atan2 (greater 0.0 (sigma1.cos * sigma2.sin - sigma1.sin * sigma2.cos))
    (sigma1.cos * sigma2.cos + sigma1.sin * sigma2.sin)
  let alongMeridian := (polar || lam.sin == 0.0)
    && (sig12 < 1.0
      || reducedLength thirdFlattening sig12 sigma1 sigma2 p.stretch q.stretch >= 0.0)
  if alongMeridian then ⟨lam, ⟨0.0, 1.0⟩, none⟩
  else if b1.sin == 0.0 && supplement >= flattening * 180.0 then
    let omega := lam12 / axisRatio
    ⟨⟨1.0, 0.0⟩, ⟨1.0, 0.0⟩, some ⟨omega.sin, omega.cos⟩⟩
  else
    let start := guess p q lam12 lam
    match start.short with
    | some (azimuth2, omega) => ⟨start.azimuth1, azimuth2, some ⟨omega.sin, omega.cos⟩⟩
    | none =>
      let found := improve p q lam 83 0 ⟨start.azimuth1, ⟨tiny, 1.0⟩, ⟨tiny, -1.0⟩, false, false⟩
      let s := found.correction.sin
      let c := found.correction.cos
      ⟨found.azimuth1, found.azimuth2,
        some ⟨lam.sin * c - lam.cos * s, lam.cos * c + lam.sin * s⟩⟩

def areaOf (p q : Station) (l : Line) : Float :=
  let b1 := p.beta
  let b2 := q.beta
  let a1 := l.azimuth1
  let a2 := l.azimuth2
  let salp0 := a1.sin * b1.cos
  let calp0 := hypotenuse a1.cos (a1.sin * b1.sin)
  let outer :=
    if calp0 != 0.0 && salp0 != 0.0 then
      let sigma1 := Angle.unit ⟨b1.sin, a1.cos * b1.cos⟩
      let sigma2 := Angle.unit ⟨b2.sin, a2.cos * b2.cos⟩
      let c4 := tableSeries areaTable (expansion calp0) 1.0
      sq equatorialRadius * calp0 * salp0 * eccentricitySq
        * (cosineSeries sigma2 c4 - cosineSeries sigma1 c4)
    else 0.0
  let byAzimuths :=
    let salp12 := a2.sin * a1.cos - a2.cos * a1.sin
    let calp12 := a2.cos * a1.cos + a2.sin * a1.sin
    if salp12 == 0.0 && calp12 < 0.0 then Float.atan2 (tiny * a1.cos) (-1.0)
    else Float.atan2 salp12 calp12
  let turned :=
    match l.omega with
    | none => byAzimuths
    | some omega =>
      if omega.cos > -0.7071 && b2.sin - b1.sin < 1.75 then
        let domega := 1.0 + omega.cos
        let dbeta1 := 1.0 + b1.cos
        let dbeta2 := 1.0 + b2.cos
        2.0 * Float.atan2 (omega.sin * (b1.sin * dbeta2 + b2.sin * dbeta1))
          (domega * (b1.sin * b2.sin + dbeta1 * dbeta2))
      else byAzimuths
  outer + authalicRadiusSq * turned

/-- The reduced latitude of a latitude; at the poles its cosine stays above zero. -/
def reducedLatitude (lat : Float) : Angle :=
  let a := Angle.ofDegrees lat
  let b := Angle.unit ⟨a.sin * axisRatio, a.cos⟩
  ⟨b.sin, greater tiny b.cos⟩

def Station.of (beta : Angle) : Station :=
  ⟨beta, (1.0 + secondEccentricitySq * sq beta.sin).sqrt⟩

def checkedLatitude (lat : Float) : Float :=
  Degrees.rounded (if lat.abs > 90.0 then 0.0 / 0.0 else lat)

/--
The area in square metres between the equator and the shortest line from the first to the second
point, positive where the line runs east north of the equator. The line is first brought into the
position where it starts in the south, at the end further from the equator, and runs east.
-/
def areaBelow (lat1 lon1 lat2 lon2 : Float) : Float :=
  let (way, err) := Degrees.difference lon1 lon2
  let east := if way >= 0.0 then 1.0 else -1.0
  let degrees := east * Degrees.rounded way
  let supplement := Degrees.rounded ((180.0 - degrees) - east * err)
  let y1 := checkedLatitude lat1
  let y2 := checkedLatitude lat2
  let swapped := y1.abs < y2.abs
  let (y1, y2) := if swapped then (y2, y1) else (y1, y2)
  let swapSign := if swapped then -1.0 else 1.0
  let lonSign := if swapped then -east else east
  let latSign := if y1 < 0.0 then 1.0 else -1.0
  let y1 := y1 * latSign
  let y2 := y2 * latSign
  let beta1 := reducedLatitude y1
  let beta2 := reducedLatitude y2
  -- Latitudes that should be equal up to sign are made so exactly.
  let beta2 : Angle :=
    if beta1.cos < -beta1.sin then
      if beta2.cos == beta1.cos then ⟨if beta2.sin < 0.0 then beta1.sin else -beta1.sin, beta2.cos⟩
      else beta2
    else if beta2.sin.abs == -beta1.sin then ⟨beta2.sin, beta1.cos⟩
    else beta2
  let p := Station.of beta1
  let q := Station.of beta2
  let l := line p q (y1 == -90.0) degrees supplement
  areaOf p q l * (swapSign * lonSign * latSign)

end Whereabouts.Geometry.Ellipsoid
