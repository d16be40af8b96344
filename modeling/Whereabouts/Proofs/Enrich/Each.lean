import Whereabouts.Proofs.Enrich.Alignment
import Whereabouts.Proofs.Lists

/-!
# Events are enriched one by one

Over the gateway that answers from memory, a batch is enriched without fail, and what is reported of
an event depends on this event alone: on none of the others, and on its number only in that the
number is reported.

* `MapData.each_boundaries`, `MapData.each_stops`, `MapData.each_lines`: the gateway answers every
  plan of a batch for itself.
* `Gateway.each_nearestAll`: the stops of a point do not depend on the other points.
* `Enricher.each_enrich`: the statement for events.
-/

namespace Whereabouts

/-- A computation on lists never fails, and treats every item for itself. -/
def Each {ε β γ : Type} (F : List β → ExceptT ε Id (List γ)) (f : β → γ) : Prop :=
  ∀ xs, F xs = pure (xs.map f)

section Lists

variable {β γ : Type}

/-- Dealing out what was put together gives the parts. -/
lemma deal_flatMap (f : β → List γ) (size : β → Nat) (bs : List β)
    (len : ∀ b, (f b).length = size b) : deal size bs (bs.flatMap f) = bs.map f := by
  induction bs with
  | nil => rfl
  | cons b bs ih =>
    rw [List.flatMap_cons, List.map_cons, deal, ← len b, List.take_left, List.drop_left, ih]

/-- What is dealt out is computed for each group from its own items. -/
lemma deal_map_flatten {δ : Type} (f : β → γ) (g : γ → δ) (bs : List (List β)) :
    deal List.length bs ((bs.flatten.map f).map g) = bs.map fun b => b.map fun x => g (f x) := by
  have e : (bs.flatten.map f).map g = bs.flatMap fun b => b.map fun x => g (f x) := by
    rw [List.map_map, List.map_flatten]
    rfl
  rw [e, deal_flatMap _ _ _ fun _ => List.length_map _]

end Lists

namespace Plan

variable {α τ : Type} [Scalar α] [Feature α τ]

/-- The features that an index gives for a plan. -/
def answer (plan : Plan α) (index : FeatureIndex α τ) : List τ :=
  plan.cut (plan.arrange ((plan.hits? index).getD []))

/-- Whether a plan can be executed on a layer. -/
structure Executable (plan : Plan α) (layer : Layer) : Prop where
  layer_eq : plan.layer = layer
  bounded : plan.predicate.bound?.isSome

/-- A plan that can be executed is answered. -/
lemma Executable.execute {plan : Plan α} {layer : Layer} (ex : plan.Executable layer)
    (index : FeatureIndex α τ) : plan.execute layer index = .ok (plan.answer index) := by
  obtain ⟨bound, e⟩ := Option.isSome_iff_exists.1 ex.bounded
  have hits : plan.hits? index = some ((index.candidates bound).filter fun f =>
      plan.predicate.test f) := by
    unfold hits?
    rw [e]
    rfl
  unfold Plan.execute answer
  rw [if_neg (not_not_intro ex.layer_eq), hits]
  rfl

/-- A plan for the boundaries around a point can be executed. -/
lemma executable_containing (point : Point α) (degrees : α) :
    (containing point degrees).Executable .boundaries := ⟨rfl, rfl⟩

/-- A plan for what lies within a distance of a point can be executed. -/
lemma executable_within (layer : Layer) (point : Point α) (metres : α) (modes : List Mode)
    (order : Order α) (limit : Option Nat) :
    (ofConditions layer (.within point metres :: modeConditions modes) order limit).Executable
      layer := by
  cases modes with
  | nil => exact ⟨rfl, rfl⟩
  | cons => exact ⟨rfl, rfl⟩

/-- A plan for the stops near a point can be executed. -/
lemma executable_nearestStops (point : Point α) (radius : α) (limit : Option Nat)
    (modes : List Mode) : (nearestStops point radius limit modes).Executable .stops :=
  executable_within .stops point radius modes (.nearestTo point) limit

/-- A plan for the lines near a point can be executed. -/
lemma executable_linesNear (point : Point α) (threshold : α) (modes : List Mode) :
    (linesNear point threshold modes).Executable .lines :=
  executable_within .lines point threshold modes (.nearestTo point) none

end Plan

section Gateway

variable {α : Type} [Scalar α] [Measured α] (data : MapData α)

namespace MapData

/-- The boundaries around a point. -/
def boundariesOf (point : Point α) : List (Boundary α) :=
  (Plan.containing point Gateway.boundaryReach).answer data.boundaries

/-- The stops of a request, with their distances. -/
def stopsOf (request : StopRequest α) : List (StopHit α) :=
  let plan := Plan.nearestStops request.point request.radius request.limit request.modes
  (plan.answer data.stops).map (hit plan)

/-- The lines of a plan. -/
def linesOf (plan : Plan α) : List Line := (plan.answer data.lines).map (·.line)

variable {data} {plans : List (Plan α)}

omit [Measured α] in
/-- Stops are found for every plan that can be executed, with their distances. -/
lemma queryStops_eq (ex : ∀ plan ∈ plans, plan.Executable .stops) :
    data.queryStops plans =
      .ok (plans.map fun plan => (plan.answer data.stops).map (hit plan)) :=
  mapM_eq_pure fun plan mem => congrArg (Except.map _) ((ex plan mem).execute data.stops)

omit [Measured α] in
/-- Lines are found for every plan that can be executed. -/
lemma queryLines_eq (ex : ∀ plan ∈ plans, plan.Executable .lines) :
    data.queryLines plans = .ok (plans.map data.linesOf) :=
  mapM_eq_pure fun plan mem => congrArg (Except.map _) ((ex plan mem).execute data.lines)

/-- Boundaries are found for every plan that can be executed. -/
lemma queryBoundaries_eq (ex : ∀ plan ∈ plans, plan.Executable .boundaries) :
    data.queryBoundaries plans = .ok (plans.map fun plan => plan.answer data.boundaries) :=
  mapM_eq_pure fun plan mem => (ex plan mem).execute data.boundaries

variable (data)

/-- The boundaries around every point are found. -/
lemma each_boundaries : Each (data.gateway Id).containingAll data.boundariesOf := by
  intro points
  show ExceptT.mk (pure (data.queryBoundaries _)) = _
  rw [queryBoundaries_eq (List.forall_mem_map.2 fun p _ => Plan.executable_containing p _),
    List.map_map]
  rfl

/-- The stops for every request are found. -/
lemma each_stops : Each (data.gateway Id).nearestStopsAll data.stopsOf := by
  intro requests
  show ExceptT.mk (pure (data.queryStops _)) = _
  rw [queryStops_eq (List.forall_mem_map.2 fun r _ => Plan.executable_nearestStops _ _ _ _),
    List.map_map]
  rfl

/-- The lines for every plan are found. -/
lemma each_lines (ex : ∀ plan ∈ plans, plan.Executable .lines) :
    (data.gateway Id).lines plans = pure (plans.map data.linesOf) := by
  show ExceptT.mk (pure (data.queryLines plans)) = _
  rw [queryLines_eq ex]
  rfl

end MapData

namespace Gateway

/-- The expected number of slots lets a computation go on. -/
lemma ensureAligned_of_eq {m : Type → Type} [Monad m] (layer : Layer) {got expected : Nat}
    (e : got = expected) : ensureAligned (m := m) layer got expected = pure () :=
  if_pos e

/-- The hierarchy around every point is found. -/
lemma each_resolveAll :
    Each (data.gateway Id).resolveAll fun p => Hierarchy.ofBoundaries (data.boundariesOf p) := by
  intro points
  unfold resolveAll
  cases points with
  | nil => rfl
  | cons p rest =>
    rw [data.each_boundaries, pure_bind, ensureAligned_of_eq _ (List.length_map _), pure_bind,
      List.map_map]
    rfl

/-- The stops that are selected for a point. -/
def selectedOf (config : MatcherConfig α) (radius : α) (limit : Nat) (p : Point α) :
    List (StopHit α × Tier) :=
  select config.tiers (config.effectiveLimit limit)
    (config.tiers.map fun tier => data.stopsOf ⟨p, config.effectiveRadius radius, none, tier.modes⟩)

/-- The stops that are reported for a point. -/
def reportsOf (config : MatcherConfig α) (radius : α) (limit : Nat) (p : Point α) :
    List (NearestStop α) :=
  let selected := selectedOf data config radius limit p
  selected.zipWith report (selected.map fun s => data.linesOf (linePlan config s))

/-- What is found around several points, point by point. -/
lemma findAll_eq (config : MatcherConfig α) (points : List (Point α)) (radius : α) :
    (data.gateway Id).findAll config points radius = pure (points.map fun p =>
      config.tiers.map fun tier =>
        data.stopsOf ⟨p, config.effectiveRadius radius, none, tier.modes⟩) := by
  have requests : (tierRequests config.tiers (config.effectiveRadius radius) points).map
      data.stopsOf = points.flatMap fun p => config.tiers.map fun tier =>
        data.stopsOf ⟨p, config.effectiveRadius radius, none, tier.modes⟩ := by
    unfold tierRequests
    rw [List.map_flatMap]
    simp only [List.map_map]
    rfl
  unfold findAll
  dsimp only
  rw [data.each_stops, pure_bind, ensureAligned_of_eq _ (List.length_map _), pure_bind, requests,
    deal_flatMap _ _ _ fun _ => List.length_map _]

/-- Every plan for lines is answered, also where there are none. -/
lemma each_askLines {plans : List (Plan α)} (ex : ∀ plan ∈ plans, plan.Executable .lines) :
    (data.gateway Id).askLines plans = pure (plans.map data.linesOf) := by
  cases plans with
  | nil => rfl
  | cons plan plans => exact data.each_lines ex

/-- The reports on selected stops, with the lines that serve them. -/
lemma reportAll_eq (config : MatcherConfig α) (selected : List (List (StopHit α × Tier))) :
    (data.gateway Id).reportAll config selected = pure (selected.map fun stops =>
      stops.zipWith report (stops.map fun s => data.linesOf (linePlan config s))) := by
  have ex : ∀ plan ∈ selected.flatten.map (linePlan config), plan.Executable .lines :=
    List.forall_mem_map.2 fun s _ => Plan.executable_linesNear _ _ _
  unfold reportAll
  dsimp only
  rw [each_askLines data ex, pure_bind, ensureAligned_of_eq _ (List.length_map _), pure_bind,
    deal_map_flatten, List.zipWith_map_right, List.zipWith_self]

/-- The stops near every point are found. -/
lemma each_nearestAll (config : MatcherConfig α) (radius : α) (limit : Nat) :
    Each (fun points => (data.gateway Id).nearestAll config points radius limit)
      (reportsOf data config radius limit) := by
  intro points
  dsimp only
  unfold nearestAll
  split
  next none =>
    rw [List.isEmpty_iff.1 none]
    rfl
  next =>
    rw [findAll_eq, pure_bind, reportAll_eq, List.map_map, List.map_map]
    rfl

end Gateway

namespace Enricher

variable (e : Enricher Id α)

/-- The location of a point and the stops near it, with the ways to them. -/
def foundOf (p : Point α) : Option Hierarchy × List (NearestStop α) :=
  let stops := Gateway.reportsOf data e.matcher e.matcher.defaultRadius e.matcher.defaultLimit p
  (Hierarchy.ofBoundaries (data.boundariesOf p), e.router.elim stops (addLegs · p stops))

/-- The result for an event. -/
def itemOf (input : Input α) : Item α :=
  match input.event.locate with
  | .error error => .failed input error
  | .ok p => .found input (e.foundOf data p).1 (e.foundOf data p).2

/-- The item of an event reports on it. -/
lemma reports_itemOf (input : Input α) : Item.Reports input (e.itemOf data input) := by
  unfold itemOf
  cases loc : input.event.locate with
  | error error => exact .failed loc
  | ok p => exact .found _ _ loc

/-- The number of an event shows in its result as the number only. -/
lemma itemOf_index (index : Nat) (event : Event α) :
    e.itemOf data ⟨index, event⟩ = { e.itemOf data ⟨0, event⟩ with index } := by
  unfold itemOf
  cases event.locate with
  | error => rfl
  | ok => rfl

omit [Scalar α] [Measured α] in
/-- The ways are added point by point. -/
lemma addAllLegs_map (f : Point α → List (NearestStop α)) (points : List (Point α)) :
    addAllLegs e.router points (points.map f) =
      (pure (points.map fun p => e.router.elim (f p) (addLegs · p (f p))) : Id _) := by
  unfold addAllLegs
  cases e.router with
  | none => rfl
  | some router =>
    have pairs : points.zip (points.map f) = points.map fun p => (p, f p) := by
      rw [List.zip_eq_zipWith, List.zipWith_map_right, List.zipWith_self]
    dsimp only
    rw [pairs]
    refine List.idRun_mapM.trans ?_
    rw [List.map_map]
    rfl

omit [Scalar α] [Measured α] in
/-- The right number of results lets a computation go on. -/
lemma ensureResults_of_eq {m : Type → Type} [Monad m] (part : String) {got expected : Nat}
    (e : got = expected) : ensureResults (m := m) part got expected = pure () :=
  if_pos e

variable {e data}

/-- What is found for every point. -/
lemma each_lookUp (he : e.gateway = data.gateway Id) : Each e.lookUp (e.foundOf data) := by
  intro points
  unfold lookUp
  split
  next none =>
    rw [List.isEmpty_iff.1 none]
    rfl
  next =>
    have locations := Gateway.each_resolveAll data points
    have stops := Gateway.each_nearestAll data e.matcher e.matcher.defaultRadius
      e.matcher.defaultLimit points
    dsimp only at stops
    have answer : (e.askGateway points).adapt EnrichError.store = pure
        (points.map fun p => Hierarchy.ofBoundaries (data.boundariesOf p),
          points.map (Gateway.reportsOf data e.matcher e.matcher.defaultRadius
            e.matcher.defaultLimit)) := by
      unfold askGateway
      rw [he, locations, pure_bind, stops, pure_bind]
      rfl
    rw [answer, pure_bind]
    dsimp only
    rw [ensureResults_of_eq _ (List.length_map _), pure_bind,
      ensureResults_of_eq _ (List.length_map _), pure_bind, addAllLegs_map]
    exact congrArg (pure (f := ExceptT EnrichError Id)) List.zip_map'

/-- The results stand between those for the events that cannot be located. -/
lemma assemble_map (inputs : List (Input α)) :
    assemble inputs ((inputs.filterMap fun input => input.event.locate.toOption).map
      (e.foundOf data)) = inputs.map (e.itemOf data) := by
  induction inputs with
  | nil => rfl
  | cons input inputs ih =>
    rw [List.filterMap_cons, List.map_cons]
    unfold assemble itemOf
    cases loc : input.event.locate with
    | error error => exact congrArg (_ :: ·) ih
    | ok p => exact congrArg (_ :: ·) ih

/-- **Events are enriched one by one.** Over the gateway that answers from memory no batch fails,
and the result for an event is the same in every batch. -/
theorem each_enrich (he : e.gateway = data.gateway Id) (inputs : List (Input α)) :
    e.enrich inputs = pure (.ofItems (inputs.map (e.itemOf data))) := by
  unfold enrich
  dsimp only
  rw [each_lookUp he, pure_bind, assemble_map]

end Enricher

end Gateway

end Whereabouts
