import Whereabouts.Query.Predicate
import Whereabouts.Store.Packing

/-!
# Feature indexes

The features of one layer that have a place, each with the upright rectangle around it, packed so
that neighbours stand together. `candidates` gives the features whose rectangle touches an envelope.
-/

namespace Whereabouts

/-- The features of a layer that have a place. -/
structure FeatureIndex (α τ : Type) where
  entries : List (Indexed α τ)

namespace FeatureIndex

variable {α τ : Type} [Scalar α] [Feature α τ]

/-- The entry of a feature, `none` where it has no place. -/
def entry? (feature : τ) : Option (Indexed α τ) :=
  (Feature.envelope? feature).map fun e => ⟨feature, e.upright⟩

/-- The index of a list of features; features without a place are left out. -/
def ofList (features : List τ) : FeatureIndex α τ :=
  ⟨Packing.pack (features.filterMap entry?)⟩

def toList (index : FeatureIndex α τ) : List τ := index.entries.map (·.feature)

def size (index : FeatureIndex α τ) : Nat := index.entries.length

/-- The entries whose rectangle touches one of the parts, in the order of the parts; an entry that
touches several stands where it touches the first. -/
def touching (entries : List (Indexed α τ)) : List (Envelope α) → List (Indexed α τ)
  | [] => []
  | part :: parts =>
    let (hits, others) := entries.partition fun entry => entry.extent.intersects part.upright
    hits ++ touching others parts

/-- The features whose rectangle touches the envelope, each of them once. -/
def candidates (index : FeatureIndex α τ) (envelope : Envelope α) : List τ :=
  (touching index.entries envelope.parts).map (·.feature)

end FeatureIndex

end Whereabouts
