import Whereabouts.Geometry.Point

/-!
# Walking matrices

Distances and durations on foot from every origin to every destination. A router answers requests of
a limited size, so a large matrix is cut into chunks, and the answers are put together again.
-/

namespace Whereabouts

/-- A way on foot. -/
structure Leg (α : Type) where
  distance : α
  duration : α
deriving Repr

/-- A row for each origin and a cell for each destination; no leg where there is no way. -/
abbrev Matrix (α : Type) := List (List (Option (Leg α)))

/-- What is wrong with the answer of a router. -/
inductive BadResponse where
  /-- The router reports a failure of its own. -/
  | refused (code message : String)
  | missingDistances
  | missingDurations
  /-- The tables of the answer have another number of rows. -/
  | tableRows (expected : Nat)
  /-- The tables of the answer have another number of columns. -/
  | tableColumns (expected : Nat)
  | rows (expected got : Nat)
  | columns (expected got : Nat)
deriving DecidableEq, Repr

/-- Why a matrix could not be computed. -/
inductive RoutingError where
  | emptySide
  /-- A request of this size cannot hold an origin and a destination. -/
  | requestTooSmall (maxPoints : Nat)
  /-- The address of the service has no path. -/
  | noBase (url : String)
  | tooManyPoints (count maxPoints : Nat)
  /-- The request failed, or its answer was not of the expected form. -/
  | transport
  | badResponse (cause : BadResponse)
deriving DecidableEq, Repr

def BadResponse.message : BadResponse → String
  | .refused code message => code ++ ": " ++ message
  | .missingDistances => "missing distances"
  | .missingDurations => "missing durations"
  | .tableRows expected => "expected " ++ toString expected ++ " rows"
  | .tableColumns expected => "expected " ++ toString expected ++ " columns"
  | .rows expected got => "expected " ++ toString expected ++ " rows, got " ++ toString got
  | .columns expected got => "expected " ++ toString expected ++ " columns, got " ++ toString got

def RoutingError.message : RoutingError → String
  | .emptySide => "invalid routing input: origins and destinations must both be non-empty"
  | .requestTooSmall maxPoints =>
    "invalid routing input: request size " ++ toString maxPoints
      ++ " cannot hold an origin and a destination"
  | .noBase url => "invalid routing input: " ++ url ++ " cannot be a base URL"
  | .tooManyPoints count maxPoints =>
    toString count ++ " points exceed the per-request maximum of " ++ toString maxPoints
  | .transport => "routing request failed"
  | .badResponse cause => "bad routing response: " ++ cause.message

/-- A service that computes matrices. -/
structure Router (m : Type → Type) (α : Type) where
  matrix : List (Point α) → List (Point α) → ExceptT RoutingError m (Matrix α)

/-- How many origins and destinations a request may have together. -/
def maxMatrixPoints : Nat := 25

/-- The numbers from `start` to `stop`, the latter excluded. -/
structure Span where
  start : Nat
  stop : Nat
deriving DecidableEq, Repr

namespace Span

def size (s : Span) : Nat := s.stop - s.start

def contains (s : Span) (n : Nat) : Bool := s.start ≤ n && n < s.stop

def slice {β : Type} (s : Span) (items : List β) : List β := (items.drop s.start).take s.size

/-- Cuts the numbers below `count` into pieces of `step` numbers; the last may be shorter. -/
def cut (count step : Nat) : List Span :=
  (List.range ((count + step - 1) / step)).map fun k => ⟨k * step, min (k * step + step) count⟩

end Span

/-- The part of a matrix that one request computes. -/
structure Chunk where
  origins : Span
  destinations : Span
deriving DecidableEq, Repr

/-- Cuts a matrix into chunks whose origins and destinations are together at most `maxPoints`. -/
def partition (origins destinations maxPoints : Nat) : Except RoutingError (List Chunk) :=
  if origins = 0 ∨ destinations = 0 then .error .emptySide
  else if maxPoints < 2 then .error (.requestTooSmall maxPoints)
  else
    let originStep := max (min origins (maxPoints - min destinations (maxPoints / 2))) 1
    let destinationStep := max (maxPoints - originStep) 1
    .ok ((Span.cut origins originStep).flatMap fun o =>
      (Span.cut destinations destinationStep).map fun d => ⟨o, d⟩)

namespace Matrix

variable {α : Type}

def blank (origins destinations : Nat) : Matrix α :=
  List.replicate origins (List.replicate destinations none)

/-- Fails unless an answer has the shape of its chunk. -/
def checkShape (chunk : Chunk) (part : Matrix α) : Except RoutingError Unit :=
  if part.length ≠ chunk.origins.size then
    .error (.badResponse (.rows chunk.origins.size part.length))
  else
    match part.find? fun row => row.length ≠ chunk.destinations.size with
    | some row => .error (.badResponse (.columns chunk.destinations.size row.length))
    | none => .ok ()

def cell (matrix : Matrix α) (row column : Nat) : Option (Leg α) :=
  ((matrix[row]?).bind fun cells => cells[column]?).join

def place (chunk : Chunk) (part matrix : Matrix α) : Matrix α :=
  matrix.mapIdx fun i row =>
    if chunk.origins.contains i then
      row.mapIdx fun j old =>
        if chunk.destinations.contains j then
          cell part (i - chunk.origins.start) (j - chunk.destinations.start)
        else old
    else row

end Matrix

namespace Router

variable {m : Type → Type} [Monad m] {α : Type}

/-- Asks for one chunk and puts the answer into the matrix. -/
def fill (router : Router m α) (origins destinations : List (Point α)) (matrix : Matrix α)
    (chunk : Chunk) : ExceptT RoutingError m (Matrix α) := do
  let part ← router.matrix (chunk.origins.slice origins) (chunk.destinations.slice destinations)
  ExceptT.mk (pure (Matrix.checkShape chunk part))
  return Matrix.place chunk part matrix

/-- The matrix of any number of points, one request for each chunk. -/
def routeMatrix (router : Router m α) (origins destinations : List (Point α)) :
    ExceptT RoutingError m (Matrix α) := do
  let chunks ← ExceptT.mk (pure (partition origins.length destinations.length maxMatrixPoints))
  chunks.foldlM (router.fill origins destinations)
    (Matrix.blank origins.length destinations.length)

end Router

end Whereabouts
