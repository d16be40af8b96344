import Whereabouts.Store.Error
import Whereabouts.Store.Index

/-!
# Executing plans

A plan is executed in four steps: the features whose rectangle touches the bound of the predicate,
of these the ones that satisfy the predicate, those in the order of the plan, and of them as many as
are wanted.
-/

namespace Whereabouts

namespace Plan

variable {α τ : Type} [Scalar α] [Feature α τ]

def key (plan : Plan α) (feature : τ) : α :=
  match plan.order with
  | .nearestTo origin => Feature.distance feature origin
  | .smallestFirst => Feature.size feature
  | .unordered => 0.0

/-- The features in the order of the plan; features with equal keys keep their order. -/
def arrange (plan : Plan α) (features : List τ) : List τ :=
  match plan.order with
  | .unordered => features
  | _ =>
    let keyed := features.map fun f => (plan.key f, f)
    (keyed.mergeSort fun a b => Scalar.rankLe a.1 b.1).map (·.2)

def cut (plan : Plan α) (features : List τ) : List τ :=
  match plan.limit with
  | some n => features.take n
  | none => features

/-- The matching features of an index, `none` where the predicate bounds nothing. -/
def hits? (plan : Plan α) (index : FeatureIndex α τ) : Option (List τ) :=
  plan.predicate.bound?.map fun bound =>
    (index.candidates bound).filter fun f => plan.predicate.test f

def execute (plan : Plan α) (layer : Layer) (index : FeatureIndex α τ) :
    Except StoreError (List τ) :=
  if plan.layer ≠ layer then .error (.layerMismatch layer plan.layer)
  else match plan.hits? index with
    | none => .error (.unbounded layer)
    | some hits => .ok (plan.cut (plan.arrange hits))

/-- The answers to several plans; the first plan that fails fails them all. -/
def executeAll (plans : List (Plan α)) (layer : Layer) (index : FeatureIndex α τ) :
    Except StoreError (List (List τ)) :=
  plans.mapM fun plan => plan.execute layer index

end Plan

end Whereabouts
