import Whereabouts.Store.Gateway

/-!
# Stations and routes

Map data has several stops for one station and several lines for one route. Of the stops of a
station the nearest is kept, of the lines of a route the first.
-/

namespace Whereabouts

namespace StopHit

variable {α : Type} [Scalar α]

/-- Whether a stop takes the place of another one of its station: it is nearer, or as near and has
the lower name. -/
def beats (hit kept : StopHit α) : Bool :=
  hit.distance < kept.distance || (hit.distance == kept.distance && hit.stop.id < kept.stop.id)

/-- The order of stops: by distance, then by name. -/
def before (a b : StopHit α) : Bool :=
  ((Scalar.rank a.distance b.distance).then (compare a.stop.id b.stop.id)).isLE

/-- Adds a stop to the nearest stops of the stations so far. -/
def keepNearest (best : List (StopHit α)) (hit : StopHit α) : List (StopHit α) :=
  if best.any fun kept => kept.stop.dedupKey == hit.stop.dedupKey then
    best.map fun kept =>
      if kept.stop.dedupKey == hit.stop.dedupKey && hit.beats kept then hit else kept
  else best ++ [hit]

/-- The nearest stop of each station, the nearest station first. -/
def dedup (hits : List (StopHit α)) : List (StopHit α) :=
  (hits.foldl keepNearest []).mergeSort before

end StopHit

namespace Line

/-- The order of lines: by tier, then by label, then by name. -/
def before (a b : Line) : Bool :=
  ((compare a.mode.tier.number b.mode.tier.number).then
    ((compare a.label b.label).then (compare a.id b.id))).isLE

/-- Adds a line to the lines so far unless one of its route is among them. -/
def keepFirst (kept : List Line) (line : Line) : List Line :=
  if kept.any fun l => l.dedupKey == line.dedupKey then kept else kept ++ [line]

def dedup (lines : List Line) : List Line := (lines.foldl keepFirst []).mergeSort before

end Line

end Whereabouts
