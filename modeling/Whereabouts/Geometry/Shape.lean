import Whereabouts.Geometry.Point

/-!
# Shapes

Polygons with holes and lines of several parts. Whether a polygon contains a point is decided by the
winding number of its rings; the turns are those of the scalars, so on doubles the answer is exact.
-/

namespace Whereabouts

/-- A polygon: its outer ring and the rings of its holes. A ring ends where it starts. -/
structure Polygon (α : Type) where
  exterior : List (Point α)
  holes : List (List (Point α))

abbrev Area (α : Type) := List (Polygon α)

/-- A line of several parts, each a list of points joined in order. -/
abbrev Track (α : Type) := List (List (Point α))

/-- An area whose size on the earth can be measured. -/
class Measured (α : Type) [Scalar α] where
  /-- The area of a polygon in square metres. -/
  polygonArea : Polygon α → α

/-- Where a point lies relative to a ring. -/
inductive Position where
  | inside
  | onBoundary
  | outside
deriving DecidableEq, Repr

namespace Ring

variable {α : Type} [Scalar α]

def closed (ring : List (Point α)) : List (Point α) :=
  match ring.head?, ring.getLast? with
  | some first, some last => if first.same last then ring else ring ++ [first]
  | _, _ => ring

/-- The sides of a ring, or the pieces of a line. -/
def segments (points : List (Point α)) : List (Point α × Point α) := points.zip points.tail

/-- Whether a number lies between two others, in whichever order they come. -/
def between (x a b : α) : Bool := if a < b then a ≤ x && x ≤ b else b ≤ x && x ≤ a

/-- What a side contributes to the winding number, `none` where the point lies on the side. -/
def winding? (p : Point α) (side : Point α × Point α) : Option Int :=
  let (a, b) := side
  let side := Scalar.turn (a.lon, a.lat) (b.lon, b.lat) (p.lon, p.lat)
  let touches := side == .eq && between p.lon a.lon b.lon
  if a.lat ≤ p.lat then
    if p.lat ≤ b.lat then
      if side == .gt && !(b.lat == p.lat) then some 1 else if touches then none else some 0
    else some 0
  else if b.lat ≤ p.lat then
    if side == .lt then some (-1) else if touches then none else some 0
  else some 0

def position (ring : List (Point α)) (p : Point α) : Position :=
  match ring with
  | [] => .outside
  | [only] => if only.same p then .onBoundary else .outside
  | _ =>
    match (segments ring).mapM (winding? p) with
    | none => .onBoundary
    | some windings => if windings.foldl (· + ·) 0 = 0 then .outside else .inside

end Ring

namespace Polygon

variable {α : Type} [Scalar α]

/-- Whether a polygon contains a point; its border and the borders of its holes do not belong to
it. -/
def contains (polygon : Polygon α) (p : Point α) : Bool :=
  Ring.position polygon.exterior p == .inside
    && polygon.holes.all fun hole => Ring.position hole p == .outside

end Polygon

/-- Whether one of the polygons contains a point. -/
def Area.contains {α : Type} [Scalar α] (area : Area α) (p : Point α) : Bool :=
  List.any area fun polygon => polygon.contains p

def Area.size {α : Type} [Scalar α] [Measured α] (area : Area α) : α :=
  List.foldl (fun sum polygon => sum + Measured.polygonArea polygon) 0.0 area

end Whereabouts
