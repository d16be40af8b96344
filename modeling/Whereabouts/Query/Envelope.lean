import Whereabouts.Geometry.Point

/-!
# Envelopes

Rectangles of longitudes and latitudes. An envelope may reach over the antimeridian; `parts` cuts it
into rectangles that do not.
-/

namespace Whereabouts

/-- A rectangle whose sides run along meridians and parallels. -/
structure Envelope (α : Type) where
  minLon : α
  minLat : α
  maxLon : α
  maxLat : α
deriving Repr

namespace Envelope

variable {α : Type} [Scalar α]

/-- The metres in a degree of latitude, and of longitude at the equator. -/
def metresPerDegree : α := 111320.0

def ofPoint (p : Point α) : Envelope α := ⟨p.lon, p.lat, p.lon, p.lat⟩

/-- The envelope that reaches `lon` and `lat` degrees to each side of a point. -/
def reaching (p : Point α) (lon lat : α) : Envelope α :=
  ⟨p.lon - lon, p.lat - lat, p.lon + lon, p.lat + lat⟩

/-- The square that reaches `degrees` to each side of a point. -/
def around (p : Point α) (degrees : α) : Envelope α := reaching p degrees degrees

/-- How many degrees of longitude `metres` can span at a latitude, at most half the circle. -/
def lonReach (lat metres : α) : α :=
  let c := Scalar.cos (Scalar.radians lat)
  if c < 0.000001 then 180.0 else Scalar.least (metres / (metresPerDegree * c)) 180.0

/-- The envelope that reaches `metres` to each side of a point; it is wider towards the poles. -/
def aroundMetres (p : Point α) (metres : α) : Envelope α :=
  reaching p (lonReach p.lat metres) (metres / metresPerDegree)

/-- The rectangles between the longitudes -180 and 180 that make up the envelope: two where it
crosses the antimeridian. -/
def parts (e : Envelope α) : List (Envelope α) :=
  if 360.0 ≤ e.maxLon - e.minLon then [⟨-180.0, e.minLat, 180.0, e.maxLat⟩]
  else if e.minLon < -180.0 then
    [⟨e.minLon + 360.0, e.minLat, 180.0, e.maxLat⟩, ⟨-180.0, e.minLat, e.maxLon, e.maxLat⟩]
  else if 180.0 < e.maxLon then
    [⟨e.minLon, e.minLat, 180.0, e.maxLat⟩, ⟨-180.0, e.minLat, e.maxLon - 360.0, e.maxLat⟩]
  else [e]

/-- Whether a point lies in the rectangle or on its border. -/
def contains (e : Envelope α) (p : Point α) : Bool :=
  e.minLon ≤ p.lon && p.lon ≤ e.maxLon && e.minLat ≤ p.lat && p.lat ≤ e.maxLat

/-- Whether two rectangles have a point in common. -/
def intersects (e f : Envelope α) : Bool :=
  e.minLon ≤ f.maxLon && f.minLon ≤ e.maxLon && e.minLat ≤ f.maxLat && f.minLat ≤ e.maxLat

def intersection? (e f : Envelope α) : Option (Envelope α) :=
  if e.intersects f then
    some ⟨Scalar.greatest e.minLon f.minLon, Scalar.greatest e.minLat f.minLat,
      Scalar.least e.maxLon f.maxLon, Scalar.least e.maxLat f.maxLat⟩
  else none

/-- The first of two numbers if it is below the second, else the second. -/
def lowerOf (a b : α) : α := if a < b then a else b

/-- The first of two numbers if it is above the second, else the second. -/
def upperOf (a b : α) : α := if b < a then a else b

/-- The rectangle between the same corners whose minima are below its maxima. -/
def upright (e : Envelope α) : Envelope α :=
  ⟨lowerOf e.minLon e.maxLon, lowerOf e.minLat e.maxLat, upperOf e.minLon e.maxLon,
    upperOf e.minLat e.maxLat⟩

/-- The least rectangle that holds the envelope and a point. -/
def extend (e : Envelope α) (p : Point α) : Envelope α :=
  ⟨if p.lon < e.minLon then p.lon else e.minLon, if p.lat < e.minLat then p.lat else e.minLat,
    if e.maxLon < p.lon then p.lon else e.maxLon, if e.maxLat < p.lat then p.lat else e.maxLat⟩

/-- The least rectangle that holds all points, `none` without points. -/
def bounding? : List (Point α) → Option (Envelope α)
  | [] => none
  | p :: ps => some (ps.foldl extend (ofPoint p))

end Envelope

end Whereabouts
