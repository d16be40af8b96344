import Whereabouts.Event
import Whereabouts.Transit.Matcher
import Whereabouts.Walking.Matrix

/-!
# Enriching batches

Every event of a batch gets the administrative hierarchy around it and the stops near it, and, with
a router, the ways on foot to these stops. What is wrong with one event is reported on its item;
only a failure of the gateway fails the batch. A failure of the router leaves the ways out.
-/

namespace Whereabouts

/-- An event with the number that its result is to carry. -/
structure Input (α : Type) where
  index : Nat
  event : Event α

/-- What is wrong with a single event. -/
inductive ItemError (α : Type) where
  | missingCoordinates
  | invalidCoordinates (point : Point α)

/-- The result for one event. -/
structure Item (α : Type) where
  index : Nat
  propertyId : String
  location : Option Hierarchy
  nearestStops : Option (List (NearestStop α))
  error : Option (ItemError α)

/-- The results of a batch. -/
structure BatchResult (α : Type) where
  items : List (Item α)
  total : Nat
  success : Nat
  errors : Nat

/-- The failure of a whole batch. -/
inductive EnrichError where
  | store (cause : StoreError)
  /-- A part of the enrichment has given another number of results than there are points. -/
  | misaligned (part : String) (got expected : Nat)
deriving DecidableEq, Repr

def EnrichError.message : EnrichError → String
  | .store cause => "spatial gateway failed: " ++ cause.message
  | .misaligned part got expected =>
    part ++ " returned " ++ toString got ++ " results for " ++ toString expected ++ " points"

/-- What enrichment works with. -/
structure Enricher (m : Type → Type) (α : Type) where
  gateway : Gateway m α
  matcher : MatcherConfig α
  router : Option (Router m α)

/-- Where an event lies, or what is wrong with it. -/
def Event.locate {α : Type} [Scalar α] (e : Event α) : Except (ItemError α) (Point α) :=
  match e.point? with
  | none => .error .missingCoordinates
  | some p => if p.isValid then .ok p else .error (.invalidCoordinates p)

namespace Item

variable {α : Type}

/-- The result for an event that cannot be located. -/
def failed (input : Input α) (error : ItemError α) : Item α :=
  ⟨input.index, input.event.propertyId, none, none, some error⟩

def found (input : Input α) (location : Option Hierarchy) (stops : List (NearestStop α)) :
    Item α :=
  ⟨input.index, input.event.propertyId,
    location.map fun h => { h with addressVisible := input.event.addressVisible }, some stops, none⟩

def isSuccess (item : Item α) : Bool := item.error.isNone

end Item

namespace NearestStop

variable {α : Type}

/-- The stop with the way to it, where there is one. -/
def withLeg (stop : NearestStop α) (leg : Option (Leg α)) : NearestStop α :=
  match leg with
  | some leg =>
    { stop with walkingDistance := some leg.distance, walkingDuration := some leg.duration }
  | none => stop

/-- The stops with the ways of a row of a matrix; stops beyond the row stay as they are. -/
def withLegs : List (NearestStop α) → List (Option (Leg α)) → List (NearestStop α)
  | stop :: stops, leg :: legs => stop.withLeg leg :: withLegs stops legs
  | stops, _ => stops

end NearestStop

def BatchResult.ofItems {α : Type} (items : List (Item α)) : BatchResult α :=
  let success := items.countP Item.isSuccess
  ⟨items, items.length, success, items.length - success⟩

namespace Enricher

variable {m : Type → Type} [Monad m] {α : Type} [Scalar α] [Measured α]

/-- The stops of a point with the ways to them; they stay as they are where the router fails. -/
def addLegs (router : Router m α) (point : Point α) (stops : List (NearestStop α)) :
    m (List (NearestStop α)) := do
  if stops.isEmpty then return stops
  match ← (router.routeMatrix [point] (stops.map (·.stop.location))).run with
  | .ok matrix => return NearestStop.withLegs stops (matrix.getLast?.getD [])
  | .error _ => return stops

/-- `addLegs` for every point, where there is a router. -/
def addAllLegs (router : Option (Router m α)) (points : List (Point α))
    (stops : List (List (NearestStop α))) : m (List (List (NearestStop α))) :=
  match router with
  | none => return stops
  | some router => (points.zip stops).mapM fun (point, stops) => addLegs router point stops

/-- Fails unless a part of the enrichment has given one result for each point. -/
def ensureResults (part : String) (got expected : Nat) : ExceptT EnrichError m Unit :=
  if got = expected then pure () else throw (.misaligned part got expected)

/-- What the gateway knows of valid points: the locations and the stops. -/
def askGateway (e : Enricher m α) (points : List (Point α)) :
    ExceptT StoreError m (List (Option Hierarchy) × List (List (NearestStop α))) := do
  let locations ← e.gateway.resolveAll points
  let stops ← e.gateway.nearestAll e.matcher points e.matcher.defaultRadius e.matcher.defaultLimit
  return (locations, stops)

/-- The locations and the stops of valid points, with the ways to the stops; nothing is asked where
there are no points. -/
def lookUp (e : Enricher m α) (points : List (Point α)) :
    ExceptT EnrichError m (List (Option Hierarchy × List (NearestStop α))) := do
  if points.isEmpty then return []
  let (locations, stops) ← (e.askGateway points).adapt EnrichError.store
  ensureResults "boundary resolver" locations.length points.length
  ensureResults "transit matcher" stops.length points.length
  let stops ← ExceptT.lift (addAllLegs e.router points stops)
  return locations.zip stops

/-- Puts the results for the located events between those for the others. -/
def assemble : List (Input α) → List (Option Hierarchy × List (NearestStop α)) → List (Item α)
  | [], _ => []
  | input :: inputs, found =>
    match input.event.locate, found with
    | .error e, found => Item.failed input e :: assemble inputs found
    | .ok _, (location, stops) :: found => Item.found input location stops :: assemble inputs found
    | .ok _, [] => assemble inputs []

/-- Enriches a batch; the results stand in the order of the events. -/
def enrich (e : Enricher m α) (inputs : List (Input α)) :
    ExceptT EnrichError m (BatchResult α) := do
  let points := inputs.filterMap fun input => input.event.locate.toOption
  let found ← e.lookUp points
  return BatchResult.ofItems (assemble inputs found)

end Enricher

end Whereabouts
