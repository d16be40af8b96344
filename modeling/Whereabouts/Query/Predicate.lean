import Whereabouts.Query.Envelope
import Whereabouts.Transit.Mode

/-!
# Predicates on features

What a query asks of a feature, and the rectangle that every matching feature has to touch.
-/

namespace Whereabouts

/-- Something on the map that a query can be asked about. -/
class Feature (α : outParam Type) (τ : Type) where
  /-- The rectangle around the feature, `none` where it has no place. -/
  envelope? : τ → Option (Envelope α)
  /-- Whether the feature is an area around the point. -/
  contains : τ → Point α → Bool
  /-- The distance in metres from a point to the nearest part of the feature. -/
  distance : τ → Point α → α
  /-- The mode of transit, where the feature has one. -/
  mode? : τ → Option Mode
  /-- The size that features are ordered by. -/
  size : τ → α

/-- A condition on a feature. -/
inductive Predicate (α : Type) where
  /-- All of the conditions hold. -/
  | all (conditions : List (Predicate α))
  /-- The rectangle around the feature touches the envelope. -/
  | touches (envelope : Envelope α)
  /-- The feature contains the point. -/
  | contains (point : Point α)
  /-- The feature is at most `metres` away from the origin. -/
  | within (origin : Point α) (metres : α)
  /-- The mode of the feature is one of the list. -/
  | modeIn (modes : List Mode)

namespace Predicate

variable {α : Type} [Scalar α]

/-- The overlap of two bounds; bounds that are apart leave a single point to look at. -/
def narrow (current bound : Envelope α) : Envelope α :=
  (current.intersection? bound).getD (Envelope.ofPoint ⟨current.minLat, current.minLon⟩)

/-- The overlap of two bounds that may be missing. -/
def narrow? : Option (Envelope α) → Option (Envelope α) → Option (Envelope α)
  | current, none => current
  | none, some bound => some bound
  | some current, some bound => some (narrow current bound)

mutual

/-- A rectangle that every matching feature touches, `none` where the predicate bounds nothing. -/
def bound? : Predicate α → Option (Envelope α)
  | .all conditions => boundAll? none conditions
  | .touches envelope => some envelope
  | .contains point => some (Envelope.ofPoint point)
  | .within origin metres => some (Envelope.aroundMetres origin metres)
  | .modeIn _ => none

/-- The overlap of the bounds of several conditions and a bound that is already known. -/
def boundAll? (current : Option (Envelope α)) : List (Predicate α) → Option (Envelope α)
  | [] => current
  | condition :: rest => boundAll? (narrow? current condition.bound?) rest

end

variable {τ : Type} [Feature α τ]

mutual

def test (feature : τ) : Predicate α → Bool
  | .all conditions => testAll feature conditions
  | .touches envelope => (Feature.envelope? feature).any (·.intersects envelope)
  | .contains point => Feature.contains feature point
  | .within origin metres => Feature.distance feature origin ≤ metres
  | .modeIn modes => (Feature.mode? (α := α) feature).any modes.contains

/-- Whether a feature satisfies all of the conditions. -/
def testAll (feature : τ) : List (Predicate α) → Bool
  | [] => true
  | condition :: rest => test feature condition && testAll feature rest

end

mutual

def origin? : Predicate α → Option (Point α)
  | .all conditions => originAll? conditions
  | .within origin _ => some origin
  | _ => none

/-- The origin of the first distance condition among several. -/
def originAll? : List (Predicate α) → Option (Point α)
  | [] => none
  | condition :: rest => condition.origin?.or (originAll? rest)

end

end Predicate

end Whereabouts
