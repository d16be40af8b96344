import Whereabouts.Geometry.Shape
import Whereabouts.Names
import Whereabouts.Query.Predicate
import Whereabouts.Text.Key

/-!
# Stops and lines

Stops are points, lines are tracks. Both have keys by which several entries of one station or one
route are recognised.
-/

namespace Whereabouts

/-- A platform, an entrance or a pole where a vehicle stops. -/
structure Stop (α : Type) where
  id : String
  names : Names
  mode : Mode
  location : Point α
  /-- The key of the name to show. -/
  nameKey : String

namespace Stop

variable {α : Type}

def ofNames (id : String) (names : Names) (mode : Mode) (location : Point α) : Stop α :=
  ⟨id, names, mode, location, (names.display?.map Text.nameKey).getD ""⟩

/-- What stops of one station have in common: the key of the name, or the stop itself. -/
def dedupKey (s : Stop α) : String := if s.nameKey.isEmpty then s.id else s.nameKey

variable [Scalar α]

/-- A stop is its own envelope where its location is valid. -/
def envelope? (s : Stop α) : Option (Envelope α) :=
  if s.location.isValid then some (Envelope.ofPoint s.location) else none

instance : Feature α (Stop α) where
  envelope? := envelope?
  contains _ _ := false
  distance s origin := origin.distance s.location
  mode? s := some s.mode
  size _ := 0.0

end Stop

/-- A route of transit. -/
structure Line where
  id : String
  /-- The public number of the route. -/
  reference : Option String
  name : String
  color : Option String
  mode : Mode
deriving DecidableEq, Repr

namespace Line

/-- The key of a text, `none` where nothing of the text is part of it. -/
def key? (s : String) : Option String :=
  let key := Text.nameKey s
  if key.isEmpty then none else some key

/-- What the directions of one route have in common: the key of the number, else that of the name,
else the line itself. -/
def dedupKey (l : Line) : String :=
  ((l.reference.bind key?).or (key? l.name)).getD l.id

/-- What lines are sorted by within a tier: the number, or the name where there is none. -/
def label (l : Line) : String := l.reference.getD l.name

end Line

/-- A line with the track it runs along. -/
structure LineFeature (α : Type) where
  line : Line
  track : Track α

namespace LineFeature

variable {α : Type} [Scalar α]

/-- The place of a point on a plane around `origin`, in metres; the way round the earth is the
shorter one. -/
def project (origin p : Point α) : α × α :=
  let way := Scalar.remainder (p.lon - origin.lon + 540.0) 360.0 - 180.0
  (way * Envelope.metresPerDegree * Scalar.cos (Scalar.radians origin.lat),
    (p.lat - origin.lat) * Envelope.metresPerDegree)

/-- The squared distance from the centre of the plane to a point of it. -/
def squaredNorm (p : α × α) : α := p.1 * p.1 + p.2 * p.2

/-- The squared distance from the centre of the plane to a segment. -/
def squaredDistance (a b : α × α) : α :=
  let d := (b.1 - a.1, b.2 - a.2)
  let s := ((0.0 - a.1) * d.1 + (0.0 - a.2) * d.2) / (d.1 * d.1 + d.2 * d.2)
  let foot :=
    if 0.0 < s && s < 1.0 then (a.1 + d.1 * s, a.2 + d.2 * s)
    else if s ≤ 0.0 then a
    else b
  squaredNorm (0.0 - foot.1, 0.0 - foot.2)

/-- The distances from a point to the pieces of one part of a track. -/
def partDistances (origin : Point α) : List (Point α) → List α
  | [] => []
  | [only] => [Scalar.sqrt (squaredNorm (project origin only))]
  | points => (points.zip points.tail).map fun (a, b) =>
      Scalar.sqrt (squaredDistance (project origin a) (project origin b))

/-- The distance in metres from a point to the nearest place on the track, measured on a plane
around the point; infinite where the track is empty. -/
def distance (f : LineFeature α) (origin : Point α) : α :=
  (List.flatMap (partDistances origin) f.track).foldl Scalar.least Scalar.infinity

def envelope? (f : LineFeature α) : Option (Envelope α) :=
  Envelope.bounding? (List.flatten f.track)

instance : Feature α (LineFeature α) where
  envelope? := envelope?
  contains _ _ := false
  distance := distance
  mode? f := some f.line.mode
  size _ := 0.0

end LineFeature

end Whereabouts
