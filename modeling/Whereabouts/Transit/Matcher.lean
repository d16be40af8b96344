import Whereabouts.Transit.Dedup

/-!
# Nearest stops

The stops to report for a point: those of the rail tier first, each tier sorted by distance, up to a
limit; and for each of them the lines that pass close by. All points share two calls to the gateway,
one for the stops of every tier and one for the lines of every stop that was selected.

`Gateway.nearestAll` is the search with memory for as many stops as a limit asks for. Room for them
is set aside before the first stop is taken, and a limit may be greater than any memory:
`Gateway.nearestAll?` is the search that breaks off there, without a result.
-/

namespace Whereabouts

/-- How stops are searched and selected. -/
structure MatcherConfig (α : Type) where
  defaultRadius : α
  /-- How many stops the enrichment reports for a point. -/
  defaultLimit : Nat
  maxLimit : Nat
  /-- How close a line has to pass by a stop to serve it, in metres. -/
  lineProximity : α
  /-- Whether the last tier takes part. -/
  includeFallback : Bool

namespace MatcherConfig

variable {α : Type} [Scalar α]

/-- The configuration where nothing else is said. -/
def standard : MatcherConfig α := ⟨1500.0, 5, 20, 100.0, false⟩

/-- The radius to search with: the default where the given one is no positive number. -/
def effectiveRadius (config : MatcherConfig α) (radius : α) : α :=
  if Scalar.isFinite radius && 0.0 < radius then radius else config.defaultRadius

/-- The limit to select with; zero stands for the greatest. -/
def effectiveLimit (config : MatcherConfig α) (limit : Nat) : Nat :=
  if limit = 0 ∨ config.maxLimit < limit then config.maxLimit else limit

/-- The tiers that take part, the most important first. -/
def tiers (config : MatcherConfig α) : List Tier :=
  if config.includeFallback then [.rail, .street, .fallback] else [.rail, .street]

omit [Scalar α] in
/-- Zero stands for the greatest limit. -/
@[simp] theorem effectiveLimit_zero (config : MatcherConfig α) :
    config.effectiveLimit 0 = config.maxLimit :=
  if_pos (.inl rfl)

omit [Scalar α] in
/-- But for zero the limit is kept, up to the greatest one. -/
theorem effectiveLimit_of_pos (config : MatcherConfig α) {limit : Nat} (pos : limit ≠ 0) :
    config.effectiveLimit limit = min limit config.maxLimit := by
  unfold effectiveLimit
  split <;> omega

omit [Scalar α] in
/-- No limit is above the greatest one. -/
theorem effectiveLimit_le (config : MatcherConfig α) (limit : Nat) :
    config.effectiveLimit limit ≤ config.maxLimit := by
  unfold effectiveLimit
  split <;> omega

end MatcherConfig

/-- A stop that was selected for a point, with the lines that serve it. -/
structure NearestStop (α : Type) where
  stop : Stop α
  distance : α
  priority : Nat
  lines : List Line
  walkingDistance : Option α
  walkingDuration : Option α

/-- Takes the stops of one tier after the other until there are as many as the limit says. -/
def fillByTier {α : Type} (tiers : List (Tier × List (StopHit α))) (limit : Nat) :
    List (StopHit α × Tier) :=
  (tiers.flatMap fun (tier, hits) => hits.map fun hit => (hit, tier)).take limit

/-- For how many stops room can be set aside: a list has less than 2 ^ 63 bytes, of which a stop
with its tier takes 24. -/
def maxSlots : Nat := (Nat.pow 2 63 - 1) / 24

/-- Sets room aside for as many stops as the limit says, then takes them; `none` where there cannot
be so much room. -/
def fillByTier? {α : Type} (tiers : List (Tier × List (StopHit α))) (limit : Nat) :
    Option (List (StopHit α × Tier)) :=
  if limit ≤ maxSlots then some (fillByTier tiers limit) else none

/-- Deals out a list in groups of a size, one group for each item of the first list. -/
def deal {β γ : Type} (size : β → Nat) : List β → List γ → List (List γ)
  | [], _ => []
  | b :: bs, items => items.take (size b) :: deal size bs (items.drop (size b))

namespace Gateway

variable {m : Type → Type} [Monad m] {α : Type} [Scalar α]

/-- The requests for the stops of every tier around each point. -/
def tierRequests (tiers : List Tier) (radius : α) (points : List (Point α)) :
    List (StopRequest α) :=
  points.flatMap fun p => tiers.map fun tier => ⟨p, radius, none, tier.modes⟩

/-- The stops selected for a point out of what was found for each tier. -/
def select (tiers : List Tier) (limit : Nat) (found : List (List (StopHit α))) :
    List (StopHit α × Tier) :=
  fillByTier (tiers.zip (found.map StopHit.dedup)) limit

/-- `select`, where room for the stops can be set aside. -/
def select? (tiers : List Tier) (limit : Nat) (found : List (List (StopHit α))) :
    Option (List (StopHit α × Tier)) :=
  fillByTier? (tiers.zip (found.map StopHit.dedup)) limit

/-- The plan for the lines that serve a selected stop. -/
def linePlan (config : MatcherConfig α) (selected : StopHit α × Tier) : Plan α :=
  Plan.linesNear selected.1.stop.location config.lineProximity selected.2.modes

/-- The report on a selected stop, with one line of each route. -/
def report (selected : StopHit α × Tier) (lines : List Line) : NearestStop α :=
  ⟨selected.1.stop, selected.1.distance, selected.2.number, Line.dedup lines, none, none⟩

/-- What is found around each point, tier by tier. -/
def findAll (g : Gateway m α) (config : MatcherConfig α) (points : List (Point α)) (radius : α) :
    ExceptT StoreError m (List (List (List (StopHit α)))) := do
  let requests := tierRequests config.tiers (config.effectiveRadius radius) points
  let hits ← g.nearestStopsAll requests
  ensureAligned .stops hits.length requests.length
  return deal (fun _ => config.tiers.length) points hits

/-- The lines for several plans; nothing is asked where there are none. -/
def askLines (g : Gateway m α) (plans : List (Plan α)) :
    ExceptT StoreError m (List (List Line)) :=
  if plans.isEmpty then pure [] else g.lines plans

/-- The reports on the stops that were selected for each point. -/
def reportAll (g : Gateway m α) (config : MatcherConfig α)
    (selected : List (List (StopHit α × Tier))) :
    ExceptT StoreError m (List (List (NearestStop α))) := do
  let plans := selected.flatten.map (linePlan config)
  let lines ← g.askLines plans
  ensureAligned .lines lines.length plans.length
  return selected.zipWith (fun stops lines => stops.zipWith report lines)
    (deal List.length selected lines)

/-- The nearest stops of each point. -/
def nearestAll (g : Gateway m α) (config : MatcherConfig α) (points : List (Point α)) (radius : α)
    (limit : Nat) : ExceptT StoreError m (List (List (NearestStop α))) := do
  if points.isEmpty then return []
  let found ← g.findAll config points radius
  g.reportAll config (found.map (select config.tiers (config.effectiveLimit limit)))

/-- `nearestAll` on a machine: `none` where the stops of a point would need more room than a machine
can have. The stops were asked for by then, the lines were not. -/
def nearestAll? (g : Gateway m α) (config : MatcherConfig α) (points : List (Point α)) (radius : α)
    (limit : Nat) : ExceptT StoreError m (Option (List (List (NearestStop α)))) := do
  if points.isEmpty then return some []
  let found ← g.findAll config points radius
  match found.mapM (select? config.tiers (config.effectiveLimit limit)) with
  | some selected => return some (← g.reportAll config selected)
  | none => return none

/-- The nearest stops of a single point. -/
def nearest (g : Gateway m α) (config : MatcherConfig α) (point : Point α) (radius : α)
    (limit : Nat) : ExceptT StoreError m (List (NearestStop α)) := do
  return (← g.nearestAll config [point] radius limit).getLast?.getD []

end Gateway

end Whereabouts
