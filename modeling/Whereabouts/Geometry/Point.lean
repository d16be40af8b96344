import Whereabouts.Scalar

/-!
# Points on the earth

A point is a latitude and a longitude in degrees. Distances between points follow the great circle
on a sphere (the haversine formula).
-/

namespace Whereabouts

/-- A place on the earth in degrees. -/
structure Point (α : Type) where
  lat : α
  lon : α
deriving DecidableEq, Repr

namespace Point

variable {α : Type} [Scalar α]

def same (p q : Point α) : Bool := p.lat == q.lat && p.lon == q.lon

/-- Whether both coordinates are finite and within the ranges of latitudes and longitudes. -/
def isValid (p : Point α) : Bool :=
  Scalar.isFinite p.lat && Scalar.isFinite p.lon
    && -90.0 ≤ p.lat && p.lat ≤ 90.0 && -180.0 ≤ p.lon && p.lon ≤ 180.0

def earthRadius : α := 6371008.8

/-- The haversine of the angle between two points: the square of half the chord. -/
def haversine (p q : Point α) : α :=
  Scalar.square (Scalar.sin (Scalar.radians (q.lat - p.lat) / 2.0))
    + Scalar.cos (Scalar.radians p.lat) * Scalar.cos (Scalar.radians q.lat)
      * Scalar.square (Scalar.sin (Scalar.radians (q.lon - p.lon) / 2.0))

/-- The distance in metres along the great circle. -/
def distance (p q : Point α) : α :=
  earthRadius * (2.0 * Scalar.asin (Scalar.sqrt (haversine p q)))

end Point

end Whereabouts
