import Whereabouts.Query.Predicate

/-!
# Query plans

A plan says which layer is asked, what is asked of its features, in what order they are wanted and
how many. It says nothing about how it is executed.
-/

namespace Whereabouts

/-- A collection of features of one kind. -/
inductive Layer where
  | boundaries
  | stops
  | lines
deriving DecidableEq, Repr

def Layer.title : Layer → String
  | .boundaries => "Boundaries"
  | .stops => "Stops"
  | .lines => "Lines"

/-- The order of the results. -/
inductive Order (α : Type) where
  | unordered
  /-- By distance from the point, the nearest first. -/
  | nearestTo (point : Point α)
  /-- By size, the smallest first. -/
  | smallestFirst

/-- A query. -/
structure Plan (α : Type) where
  layer : Layer
  predicate : Predicate α
  order : Order α
  limit : Option Nat

namespace Plan

variable {α : Type} [Scalar α]

/-- The plan with the given conditions; a single condition stands for itself. -/
def ofConditions (layer : Layer) (conditions : List (Predicate α)) (order : Order α)
    (limit : Option Nat) : Plan α :=
  let predicate := match conditions with
    | [only] => only
    | several => .all several
  ⟨layer, predicate, order, limit⟩

/-- The condition on the mode, which is left out where every mode will do. -/
def modeConditions (modes : List Mode) : List (Predicate α) :=
  if modes.isEmpty then [] else [.modeIn modes]

/-- The boundaries around a point, the smallest first. The square of `degrees` around the point is
for stores that scan by rectangles alone. -/
def containing (point : Point α) (degrees : α) : Plan α :=
  ofConditions .boundaries [.touches (Envelope.around point degrees), .contains point]
    .smallestFirst none

/-- The stops of the given modes within a radius, the nearest first. -/
def nearestStops (point : Point α) (radius : α) (limit : Option Nat) (modes : List Mode) : Plan α :=
  ofConditions .stops (.within point radius :: modeConditions modes) (.nearestTo point) limit

/-- The lines of the given modes that pass within a distance, the nearest first. -/
def linesNear (point : Point α) (threshold : α) (modes : List Mode) : Plan α :=
  ofConditions .lines (.within point threshold :: modeConditions modes) (.nearestTo point) none

/-- The point that distances are reported from: that of the order, else that of the condition. -/
def origin? (plan : Plan α) : Option (Point α) :=
  match plan.order with
  | .nearestTo point => some point
  | _ => plan.predicate.origin?

end Plan

end Whereabouts
