import Whereabouts.Geometry.Ellipsoid.Geodesic
import Whereabouts.Geometry.Shape

/-!
# Areas on the ellipsoid

The area enclosed by a ring of points that are joined by shortest lines. Areas are never signed: a
ring that runs the wrong way round encloses the rest of the earth. On doubles a polygon is measured
by the areas of its rings; since no area is signed, a hole that runs the wrong way round takes away
the rest of the earth.
-/

namespace Whereabouts.Geometry.Ellipsoid

/-- Which way round a ring has to run for its inside to count. -/
inductive Winding where
  | clockwise
  | counterClockwise

/-- Whether the way between two longitudes crosses the zero meridian, and in which direction. -/
def crossing (lon1 lon2 : Float) : Int :=
  let a := Degrees.reduced lon1
  let b := Degrees.reduced lon2
  let way := (Degrees.difference lon1 lon2).1
  if a <= 0.0 && b > 0.0 && way > 0.0 then 1
  else if b <= 0.0 && a > 0.0 && way < 0.0 then -1
  else 0

/-- The sum of the areas below the sides of a ring, and how often the sides cross the meridian. -/
def sides (ring : List (Float × Float)) : Float × Int :=
  (ring.zip ring.tail).foldl
    (fun (area, crossings) (p, q) =>
      (area + areaBelow p.1 p.2 q.1 q.2, crossings + crossing p.2 q.2))
    (0.0, 0)

/-- The area of a ring of latitudes and longitudes in square metres. -/
def ringArea (winding : Winding) (ring : List (Float × Float)) : Float :=
  match ring with
  | [] => 0.0
  | first :: _ =>
    let (sum, crossings) := sides (ring ++ [first])
    let area := truncatedRemainder sum surface
    let half := surface / 2.0
    let area := if crossings % 2 = 0 then area else if area < 0.0 then area + half else area - half
    let area := match winding with
      | .clockwise => area
      | .counterClockwise => -area
    if area < 0.0 then area + surface else area

end Whereabouts.Geometry.Ellipsoid

namespace Whereabouts.Geometry

open Ellipsoid

/-- The coordinates of a ring as latitudes and longitudes. -/
def coordinates (ring : List (Point Float)) : List (Float × Float) :=
  ring.map fun p => (p.lat, p.lon)

instance : Measured Float where
  polygonArea polygon :=
    polygon.holes.foldl
      (fun area hole => area - (ringArea .clockwise (coordinates hole)).abs)
      (ringArea .counterClockwise (coordinates polygon.exterior))

end Whereabouts.Geometry
