/-!
# Pacing

How long a worker rests after an iteration: not at all after work, for a fixed time when there was
nothing to do, and after a failure for a time that doubles with every further failure, up to a
ceiling. Work resets that time; iterations without work leave it as it is. Times are milliseconds.
-/

namespace Whereabouts

/-- What came of an iteration. -/
inductive Progress where
  | idle
  | worked
  | failed
deriving DecidableEq, Repr

/-- The times a worker rests. -/
structure Pacing where
  idleSleep : Nat
  /-- The rest after the first failure. -/
  errorBackoff : Nat
  maxBackoff : Nat
deriving DecidableEq, Repr

namespace Pacing

/-- The rest after an iteration, `none` for none at all. -/
def rest (p : Pacing) (backoff : Nat) : Progress → Option Nat
  | .idle => some p.idleSleep
  | .worked => none
  | .failed => some backoff

def next (p : Pacing) (backoff : Nat) : Progress → Nat
  | .idle => backoff
  | .worked => p.errorBackoff
  | .failed => min (2 * backoff) p.maxBackoff

def rests (p : Pacing) (backoff : Nat) : List Progress → List (Option Nat)
  | [] => []
  | progress :: later => p.rest backoff progress :: p.rests (p.next backoff progress) later

end Pacing

end Whereabouts
