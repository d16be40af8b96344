import Whereabouts.Admin.Hierarchy
import Whereabouts.Store.Execute
import Whereabouts.Transit.Stop

/-!
# Gateways

The way to the map data. A gateway answers batches of plans, one list of features for each plan.
`MapData.gateway` answers from memory. The administrative hierarchy around a point is asked of a
gateway; a point outside all boundaries has no hierarchy, and that is no failure.
-/

namespace Whereabouts

/-- A stop that was found, with its distance in metres. -/
structure StopHit (α : Type) where
  stop : Stop α
  distance : α

/-- The operations of a gateway; each takes a batch and fails or answers as a whole. -/
structure Gateway (m : Type → Type) (α : Type) where
  boundaries : List (Plan α) → ExceptT StoreError m (List (List (Boundary α)))
  stops : List (Plan α) → ExceptT StoreError m (List (List (StopHit α)))
  lines : List (Plan α) → ExceptT StoreError m (List (List Line))

/-- Fails unless a batch was answered with as many slots as expected. -/
def ensureAligned {m : Type → Type} [Monad m] (layer : Layer) (got expected : Nat) :
    ExceptT StoreError m Unit :=
  if got = expected then pure () else throw (.misaligned layer got expected)

/-- A radius around a point in which stops are looked for. -/
structure StopRequest (α : Type) where
  point : Point α
  radius : α
  limit : Option Nat
  modes : List Mode

namespace Gateway

variable {m : Type → Type} [Monad m] {α : Type} [Scalar α]

/-- How far the square of a boundary plan reaches, in degrees. -/
def boundaryReach : α := 0.1

def containingAll (g : Gateway m α) (points : List (Point α)) :
    ExceptT StoreError m (List (List (Boundary α))) :=
  g.boundaries (points.map fun p => Plan.containing p boundaryReach)

def containing (g : Gateway m α) (point : Point α) : ExceptT StoreError m (List (Boundary α)) := do
  return (← g.containingAll [point]).getLast?.getD []

def nearestStopsAll (g : Gateway m α) (requests : List (StopRequest α)) :
    ExceptT StoreError m (List (List (StopHit α))) :=
  g.stops (requests.map fun r => Plan.nearestStops r.point r.radius r.limit r.modes)

/-- The stops of the given modes within a radius, the nearest first. -/
def nearestStops (g : Gateway m α) (point : Point α) (radius : α) (limit : Option Nat)
    (modes : List Mode) : ExceptT StoreError m (List (StopHit α)) := do
  return (← g.nearestStopsAll [⟨point, radius, limit, modes⟩]).getLast?.getD []

/-- The lines that pass within a distance of each point. -/
def linesNearAll (g : Gateway m α) (points : List (Point α)) (threshold : α) (modes : List Mode) :
    ExceptT StoreError m (List (List Line)) :=
  g.lines (points.map fun p => Plan.linesNear p threshold modes)

/-- The lines of the given modes that pass within a distance of a point. -/
def linesNear (g : Gateway m α) (point : Point α) (threshold : α) (modes : List Mode) :
    ExceptT StoreError m (List Line) := do
  return (← g.linesNearAll [point] threshold modes).getLast?.getD []

section Hierarchies

variable [Measured α]

/-- The hierarchy around a point, where a boundary contains it. -/
def resolve (g : Gateway m α) (point : Point α) : ExceptT StoreError m (Option Hierarchy) := do
  return Hierarchy.ofBoundaries (← g.containing point)

/-- The hierarchies around several points, in one call to the gateway. -/
def resolveAll (g : Gateway m α) (points : List (Point α)) :
    ExceptT StoreError m (List (Option Hierarchy)) := do
  if points.isEmpty then return []
  let found ← g.containingAll points
  ensureAligned .boundaries found.length points.length
  return found.map Hierarchy.ofBoundaries

end Hierarchies

end Gateway

/-- The map data, indexed by layer. -/
structure MapData (α : Type) where
  boundaries : FeatureIndex α (Boundary α)
  stops : FeatureIndex α (Stop α)
  lines : FeatureIndex α (LineFeature α)

namespace MapData

variable {α : Type} [Scalar α] [Measured α]

def ofFeatures (boundaries : List (Boundary α)) (stops : List (Stop α))
    (lines : List (LineFeature α)) : MapData α :=
  ⟨.ofList boundaries, .ofList stops, .ofList lines⟩

/-- A found stop with its distance from the origin of the plan, zero where the plan has none. -/
def hit (plan : Plan α) (stop : Stop α) : StopHit α :=
  ⟨stop, (plan.origin?.map fun origin => Feature.distance stop origin).getD 0.0⟩

def queryBoundaries (data : MapData α) (plans : List (Plan α)) :
    Except StoreError (List (List (Boundary α))) :=
  Plan.executeAll plans .boundaries data.boundaries

def queryStops (data : MapData α) (plans : List (Plan α)) :
    Except StoreError (List (List (StopHit α))) :=
  plans.mapM fun plan => (plan.execute .stops data.stops).map (·.map (hit plan))

def queryLines (data : MapData α) (plans : List (Plan α)) :
    Except StoreError (List (List Line)) :=
  plans.mapM fun plan => (plan.execute .lines data.lines).map (·.map (·.line))

def gateway (data : MapData α) (m : Type → Type) [Monad m] : Gateway m α where
  boundaries plans := ExceptT.mk (pure (data.queryBoundaries plans))
  stops plans := ExceptT.mk (pure (data.queryStops plans))
  lines plans := ExceptT.mk (pure (data.queryLines plans))

end MapData

end Whereabouts
