import Whereabouts.Query.Plan

/-!
# Failures of the store

Any of these fails the whole call, never a single plan of it.
-/

namespace Whereabouts

/-- Why a query was not answered. -/
inductive StoreError where
  /-- The store cannot be reached. -/
  | unavailable (reason : String)
  /-- A plan for one layer was given to another. -/
  | layerMismatch (expected actual : Layer)
  /-- A plan without a bound would look at the whole layer. -/
  | unbounded (layer : Layer)
  /-- The answer has another number of slots than it should. -/
  | misaligned (layer : Layer) (got expected : Nat)
deriving DecidableEq, Repr

namespace StoreError

/-- What an answer with the wrong number of slots is said to be. -/
def misalignment : Layer → Nat → Nat → String
  | .boundaries, got, expected =>
    "boundary batch returned " ++ toString got ++ " slots for " ++ toString expected ++ " points"
  | .stops, got, expected =>
    "stop batch returned " ++ toString got ++ " slots for " ++ toString expected ++ " plans"
  | .lines, got, expected =>
    "line batch returned " ++ toString got ++ " slots for " ++ toString expected ++ " plans"

def message : StoreError → String
  | .unavailable reason => "spatial store unavailable: " ++ reason
  | .layerMismatch expected actual =>
    "plan targets " ++ actual.title ++ " but " ++ expected.title ++ " was queried"
  | .unbounded layer => "unbounded plan on " ++ layer.title
  | .misaligned layer got expected =>
    "internal gateway error: " ++ misalignment layer got expected

end StoreError

end Whereabouts
