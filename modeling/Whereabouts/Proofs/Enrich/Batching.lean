import Whereabouts.Proofs.Enrich.Isolation
import Whereabouts.Proofs.Store.Radius

/-!
# Batching changes no result

Over a gateway that answers every plan for itself, a batch of events gives what its events give
alone, whatever else is in the batch and in whatever order.

* `deal_flatten`: answers that come in one list are dealt out as they were asked for.
* `EachBy`: a computation on lists treats every item for itself, and may fail for one of them.
* `Enricher.enrich_eq_pure_iff`: what a batch comes to, event by event.
* `Enricher.enrich_transparent`: the main statement.
-/

namespace Whereabouts

/-- Groups that were put together are dealt out again as they were. -/
lemma deal_flatten {β γ : Type} {size : β → Nat} {bs : List β} {groups : List (List γ)}
    (sizes : List.Forall₂ (fun b group => group.length = size b) bs groups) :
    deal size bs groups.flatten = groups := by
  induction sizes with
  | nil => rfl
  | cons len _ ih => rw [List.flatten_cons, deal, ← len, List.take_left, List.drop_left, ih]

section Each

variable {ε β γ δ : Type}

/-- A computation on lists treats every item for itself, and fails where it fails for an item. -/
def EachBy (F : List β → ExceptT ε Id (List γ)) (R : β → γ → Prop) : Prop :=
  ∀ xs ys, F xs = pure ys ↔ List.Forall₂ R xs ys

/-- Two computations that only give a result are the same where the results are. -/
lemma pure_inj {b c : β} : (pure b : ExceptT ε Id β) = pure c ↔ b = c :=
  ⟨fun h => Except.ok.inj h, fun h => congrArg _ h⟩

/-- Two steps give a result where the first gives one from which the second gives it. -/
lemma bind_eq_pure_iff {x : ExceptT ε Id β} {f : β → ExceptT ε Id γ} {c : γ} :
    x >>= f = pure c ↔ ∃ b, x = pure b ∧ f b = pure c := by
  constructor
  · intro h
    cases result : x.run.run with
    | error e =>
      have fails : x >>= f = (throw e : ExceptT ε Id γ) := by
        have eq : x = throw e := result
        rw [eq]
        rfl
      exact nomatch fails.symm.trans h
    | ok b =>
      have eq : x = pure b := result
      rw [eq, pure_bind] at h
      exact ⟨b, eq, h⟩
  · rintro ⟨b, rfl, h⟩
    rw [pure_bind]
    exact h

end Each

/-- What a gateway answers to every single plan. -/
structure PlanAnswers (α : Type) where
  boundaries : Plan α → Except StoreError (List (Boundary α))
  stops : Plan α → Except StoreError (List (StopHit α))
  lines : Plan α → Except StoreError (List Line)

namespace PlanAnswers

variable {α : Type}

/-- The gateway that answers every plan of a batch for itself, and fails where one of them fails. -/
def gateway (a : PlanAnswers α) : Gateway Id α where
  boundaries plans := ExceptT.mk (pure (plans.mapM a.boundaries))
  stops plans := ExceptT.mk (pure (plans.mapM a.stops))
  lines plans := ExceptT.mk (pure (plans.mapM a.lines))

variable [Scalar α] (a : PlanAnswers α)

/-- The location of a point. -/
def Locates [Measured α] (p : Point α) (location : Option Hierarchy) : Prop :=
  ∃ found, a.boundaries (Plan.containing p Gateway.boundaryReach) = .ok found ∧
    location = Hierarchy.ofBoundaries found

/-- The stops that are found near a point, tier by tier. -/
def Finds (config : MatcherConfig α) (radius : α) (p : Point α) (hits : List (List (StopHit α))) :
    Prop :=
  List.Forall₂ (fun tier hit =>
    a.stops (Plan.nearestStops p (config.effectiveRadius radius) none tier.modes) = .ok hit)
    config.tiers hits

/-- The reports on what is selected out of the stops that were found near a point. -/
def Reports (config : MatcherConfig α) (limit : Nat) (hits : List (List (StopHit α)))
    (stops : List (NearestStop α)) : Prop :=
  ∃ lines, List.Forall₂ (fun s found => a.lines (Gateway.linePlan config s) = .ok found)
      (Gateway.select config.tiers (config.effectiveLimit limit) hits) lines ∧
    stops = (Gateway.select config.tiers (config.effectiveLimit limit) hits).zipWith Gateway.report
      lines

/-- The stops that are reported for a point. -/
def Nears (config : MatcherConfig α) (radius : α) (limit : Nat) (p : Point α)
    (stops : List (NearestStop α)) : Prop :=
  ∃ hits, a.Finds config radius p hits ∧ a.Reports config limit hits stops

/-- The boundaries around several points are found where those around each of them are. -/
lemma containingAll_eq_pure_iff {points : List (Point α)} {found : List (List (Boundary α))} :
    a.gateway.containingAll points = pure found ↔ List.Forall₂ (fun p bs =>
      a.boundaries (Plan.containing p Gateway.boundaryReach) = .ok bs) points found := by
  rw [← List.forall₂_map_left_iff (f := fun p => Plan.containing p Gateway.boundaryReach)
    (R := fun plan bs => a.boundaries plan = .ok bs)]
  exact mapM_eq_ok_iff

omit [Scalar α] in
/-- The stops for several requests are found where those for each of them are. -/
lemma nearestStopsAll_eq_pure_iff {requests : List (StopRequest α)}
    {hits : List (List (StopHit α))} :
    a.gateway.nearestStopsAll requests = pure hits ↔ List.Forall₂ (fun r hit =>
      a.stops (Plan.nearestStops r.point r.radius r.limit r.modes) = .ok hit) requests hits := by
  rw [← List.forall₂_map_left_iff
    (f := fun r : StopRequest α => Plan.nearestStops r.point r.radius r.limit r.modes)
    (R := fun plan hit => a.stops plan = .ok hit)]
  exact mapM_eq_ok_iff

omit [Scalar α] in
/-- The lines for several plans are found where those for each of them are. -/
lemma askLines_eq_pure_iff {plans : List (Plan α)} {lines : List (List Line)} :
    a.gateway.askLines plans = pure lines ↔
      List.Forall₂ (fun plan found => a.lines plan = .ok found) plans lines := by
  cases plans with
  | nil =>
    rw [List.forall₂_nil_left_iff]
    exact pure_inj.trans eq_comm
  | cons plan plans => exact mapM_eq_ok_iff

/-- Every point has its own location. -/
lemma eachBy_resolveAll [Measured α] : EachBy a.gateway.resolveAll a.Locates := by
  intro points locations
  by_cases some : points = []
  · rw [some, List.forall₂_nil_left_iff]
    exact pure_inj.trans eq_comm
  unfold Locates
  rw [Gateway.resolveAll_eq_ask _ some, bind_eq_pure_iff, forall₂_comp_iff]
  simp only [forall₂_eq_map_iff, containingAll_eq_pure_iff]
  apply exists_congr
  intro found
  apply and_congr_right
  intro each
  rw [Gateway.ensureAligned_of_eq _ each.length_eq.symm, pure_bind, pure_inj]
  exact eq_comm

/-- A search gives what is selected from the answers to its two calls. -/
lemma nearestAll_eq_pure_iff (config : MatcherConfig α) (radius : α) (limit : Nat)
    {points : List (Point α)} (some : points ≠ []) {stops : List (List (NearestStop α))} :
    a.gateway.nearestAll config points radius limit = pure stops ↔
      ∃ hits, List.Forall₂ (fun r hit =>
          a.stops (Plan.nearestStops r.point r.radius r.limit r.modes) = .ok hit)
          (Gateway.stopRequests config radius points) hits ∧
        ∃ lines, List.Forall₂ (fun plan found => a.lines plan = .ok found)
            (Gateway.linePlans config limit points hits) lines ∧
          stops = (Gateway.selectedNear config limit points hits).zipWith
            (fun stops lines => stops.zipWith Gateway.report lines)
            (deal List.length (Gateway.selectedNear config limit points hits) lines) := by
  rw [Gateway.nearestAll_eq_ask _ _ some, bind_eq_pure_iff]
  simp only [nearestStopsAll_eq_pure_iff]
  apply exists_congr
  intro hits
  apply and_congr_right
  intro each
  rw [Gateway.ensureAligned_of_eq _ each.length_eq.symm, pure_bind, bind_eq_pure_iff]
  simp only [askLines_eq_pure_iff]
  apply exists_congr
  intro lines
  apply and_congr_right
  intro each'
  rw [Gateway.ensureAligned_of_eq _ each'.length_eq.symm, pure_bind, pure_inj]
  exact eq_comm

/-- What is found for the requests around some points, point by point. -/
lemma forall₂_stopRequests_iff (config : MatcherConfig α) (radius : α) {points : List (Point α)}
    {hits : List (List (StopHit α))} :
    List.Forall₂ (fun r hit =>
        a.stops (Plan.nearestStops r.point r.radius r.limit r.modes) = .ok hit)
        (Gateway.stopRequests config radius points) hits ↔
      ∃ groups, List.Forall₂ (a.Finds config radius) points groups ∧ hits = groups.flatten := by
  unfold Gateway.stopRequests Gateway.tierRequests
  rw [List.flatMap_def, forall₂_flatten_iff]
  simp only [List.forall₂_map_left_iff]
  rfl

omit [Scalar α] in
/-- The lines that are dealt out to the stops of all points are the lines of each point's own stops.
-/
lemma forall₂_report_iff (linePlan : StopHit α × Tier → Plan α)
    {selected : List (List (StopHit α × Tier))} {stops : List (List (NearestStop α))} :
    (∃ lines, List.Forall₂ (fun plan found => a.lines plan = .ok found)
        (selected.flatten.map linePlan) lines ∧
      stops = selected.zipWith (fun stops lines => stops.zipWith Gateway.report lines)
        (deal List.length selected lines)) ↔
    List.Forall₂ (fun selected stops => ∃ lines,
      List.Forall₂ (fun s found => a.lines (linePlan s) = .ok found) selected lines ∧
        stops = selected.zipWith Gateway.report lines) selected stops := by
  rw [forall₂_exists_iff]
  constructor
  · rintro ⟨lines, each, rfl⟩
    rw [List.forall₂_map_left_iff, forall₂_flatten_iff] at each
    obtain ⟨groups, each, rfl⟩ := each
    rw [deal_flatten (each.imp fun _ _ own => own.length_eq.symm)]
    exact ⟨groups, each, rfl⟩
  · rintro ⟨groups, each, rfl⟩
    refine ⟨groups.flatten, ?_, ?_⟩
    · rw [List.forall₂_map_left_iff, forall₂_flatten_iff]
      exact ⟨groups, each, rfl⟩
    · rw [deal_flatten (each.imp fun _ _ own => own.length_eq.symm)]

/-- Every point has its own stops. -/
lemma eachBy_nearestAll (config : MatcherConfig α) (radius : α) (limit : Nat) :
    EachBy (fun points => a.gateway.nearestAll config points radius limit)
      (a.Nears config radius limit) := by
  intro points stops
  by_cases some : points = []
  · rw [some, List.forall₂_nil_left_iff]
    exact pure_inj.trans eq_comm
  unfold Nears
  rw [nearestAll_eq_pure_iff a config radius limit some, forall₂_comp_iff]
  simp only [forall₂_stopRequests_iff]
  -- what was found is dealt out to the points that it was found for
  have selects {groups : List (List (List (StopHit α)))}
      (finds : List.Forall₂ (a.Finds config radius) points groups) :
      Gateway.selectedNear config limit points groups.flatten =
        groups.map (Gateway.select config.tiers (config.effectiveLimit limit)) := by
    unfold Gateway.selectedNear
    rw [deal_flatten (finds.imp fun _ _ own => own.length_eq.symm)]
  constructor
  · rintro ⟨_, ⟨groups, finds, rfl⟩, reports⟩
    unfold Gateway.linePlans at reports
    rw [selects finds, forall₂_report_iff, List.forall₂_map_left_iff] at reports
    exact ⟨groups, finds, reports⟩
  · rintro ⟨groups, finds, reports⟩
    refine ⟨_, ⟨groups, finds, rfl⟩, ?_⟩
    unfold Gateway.linePlans
    rw [selects finds, forall₂_report_iff, List.forall₂_map_left_iff]
    exact reports

/-- Every plan that can be executed is answered. -/
structure Complete : Prop where
  boundaries {plan : Plan α} : plan.Executable .boundaries → ∃ found, a.boundaries plan = .ok found
  stops {plan : Plan α} : plan.Executable .stops → ∃ found, a.stops plan = .ok found
  lines {plan : Plan α} : plan.Executable .lines → ∃ found, a.lines plan = .ok found

variable {a}

/-- Where every plan is answered, every point has a location. -/
lemma Complete.locates [Measured α] (cm : a.Complete) (p : Point α) :
    ∃ location, a.Locates p location := by
  obtain ⟨found, eq⟩ := cm.boundaries (Plan.executable_containing p _)
  exact ⟨_, found, eq, rfl⟩

/-- Where every plan is answered, every point has its nearest stops. -/
lemma Complete.nears (cm : a.Complete) (config : MatcherConfig α) (radius : α) (limit : Nat)
    (p : Point α) : ∃ stops, a.Nears config radius limit p stops := by
  obtain ⟨hits, finds⟩ := exists_forall₂ fun tier (_ : tier ∈ config.tiers) =>
    cm.stops (Plan.executable_within .stops p (config.effectiveRadius radius) tier.modes
      (.nearestTo p) none)
  obtain ⟨lines, each⟩ := exists_forall₂ fun (s : StopHit α × Tier)
      (_ : s ∈ Gateway.select config.tiers (config.effectiveLimit limit) hits) =>
    cm.lines (Plan.executable_within .lines s.1.stop.location config.lineProximity s.2.modes
      (.nearestTo s.1.stop.location) none)
  exact ⟨_, hits, finds, lines, each, rfl⟩

end PlanAnswers

section Batches

variable {α : Type} [Scalar α] [Measured α]

namespace BatchResult

/-- The results of two batches, one after the other. -/
def append (r r' : BatchResult α) : BatchResult α :=
  ⟨r.items ++ r'.items, r.total + r'.total, r.success + r'.success, r.errors + r'.errors⟩

omit [Scalar α] [Measured α] in
/-- The result for two batches together is made of the results for each. -/
lemma ofItems_append (items items' : List (Item α)) :
    ofItems (items ++ items') = (ofItems items).append (ofItems items') := by
  have errors : items.length + items'.length - (items.countP Item.isSuccess +
      items'.countP Item.isSuccess) = items.length - items.countP Item.isSuccess +
        (items'.length - items'.countP Item.isSuccess) := by
    have le := List.countP_le_length (p := Item.isSuccess) (l := items)
    have le' := List.countP_le_length (p := Item.isSuccess) (l := items')
    omega
  unfold ofItems append
  simp only [List.length_append, List.countP_append, errors]

end BatchResult

namespace Enricher

/-- The stops of a point with the ways to them, where there is a router. -/
def walked (router : Option (Router Id α)) (point : Point α) (stops : List (NearestStop α)) :
    List (NearestStop α) :=
  router.elim stops fun router => addLegs router point stops

omit [Scalar α] [Measured α] in
/-- The ways to the stops of a point are asked for apart from those of the others. -/
lemma addAllLegs_eq_zipWith (router : Option (Router Id α)) {points : List (Point α)}
    {stops : List (List (NearestStop α))} (len : stops.length = points.length) :
    addAllLegs router points stops = (pure (points.zipWith (walked router) stops) : Id _) := by
  cases router with
  | none =>
    have snd : points.zipWith (walked none) stops = (points.zip stops).map Prod.snd :=
      (List.map_zip_eq_zipWith (f := Prod.snd)).symm
    rw [snd, List.map_snd_zip (Nat.le_of_eq len)]
    rfl
  | some router =>
    exact List.idRun_mapM.trans List.map_zip_eq_zipWith

variable (a : PlanAnswers α) (e : Enricher Id α)

/-- What is found for a point: its location and the stops near it, with the ways to them. -/
def FoundAt (p : Point α) (place : Option Hierarchy × List (NearestStop α)) : Prop :=
  a.Locates p place.1 ∧ ∃ stops,
    a.Nears e.matcher e.matcher.defaultRadius e.matcher.defaultLimit p stops ∧
      place.2 = walked e.router p stops

/-- What an event results in. -/
inductive ResultsIn (input : Input α) : Item α → Prop where
  | failed {error} :
    input.event.locate = .error error →
    ResultsIn input (.failed input error)
  | found {p place} :
    input.event.locate = .ok p →
    FoundAt a e p place →
    ResultsIn input (.found input place.1 place.2)

variable {a e}

omit [Scalar α] [Measured α] in
/-- Naming the failures of a computation in another way keeps what it gives. -/
lemma adapt_eq_pure_iff {ε ε' β : Type} {f : ε → ε'} {x : ExceptT ε Id β} {b : β} :
    x.adapt f = pure b ↔ x = pure b := by
  cases result : x.run.run with
  | error cause =>
    have eq : x = throw cause := result
    rw [eq]
    exact ⟨nofun, nofun⟩
  | ok c =>
    have eq : x = pure c := result
    rw [eq]
    exact pure_inj.trans pure_inj.symm

/-- The gateway tells of several points what it tells of each of them. -/
lemma askGateway_eq_pure_iff (he : e.gateway = a.gateway) {points : List (Point α)}
    {locations : List (Option Hierarchy)} {stops : List (List (NearestStop α))} :
    e.askGateway points = pure (locations, stops) ↔ List.Forall₂ a.Locates points locations ∧
      List.Forall₂ (a.Nears e.matcher e.matcher.defaultRadius e.matcher.defaultLimit) points
        stops := by
  have near := a.eachBy_nearestAll e.matcher e.matcher.defaultRadius e.matcher.defaultLimit points
  unfold askGateway
  simp only [he, bind_eq_pure_iff, a.eachBy_resolveAll points, near, pure_inj, Prod.mk.injEq]
  constructor
  · rintro ⟨_, located, _, near, rfl, rfl⟩
    exact ⟨located, near⟩
  · rintro ⟨located, near⟩
    exact ⟨_, located, _, near, rfl, rfl⟩

/-- What is found for several points is what is found for each of them. -/
lemma eachBy_lookUp (he : e.gateway = a.gateway) : EachBy e.lookUp (FoundAt a e) := by
  intro points found
  by_cases some : points = []
  · rw [some, List.forall₂_nil_left_iff]
    exact pure_inj.trans eq_comm
  unfold FoundAt lookUp
  rw [if_neg (by simpa using some), bind_eq_pure_iff, forall₂_zip_iff]
  simp only [adapt_eq_pure_iff, Prod.exists, askGateway_eq_pure_iff he, and_assoc]
  refine exists_congr fun locations => exists_congr fun stops =>
    and_congr_right fun located => and_congr_right fun near => ?_
  rw [ensureResults_of_eq _ located.length_eq.symm, pure_bind,
    ensureResults_of_eq _ near.length_eq.symm, pure_bind,
    addAllLegs_eq_zipWith e.router near.length_eq.symm]
  exact pure_inj.trans eq_comm

/-- An event that lies nowhere has a failed item as its result. -/
lemma resultsIn_error_iff {input : Input α} {error : ItemError α} {item : Item α}
    (loc : input.event.locate = .error error) :
    ResultsIn a e input item ↔ item = .failed input error := by
  constructor
  · intro own
    cases own with
    | failed loc' =>
      cases loc.symm.trans loc'
      rfl
    | found loc' => cases loc.symm.trans loc'
  · rintro rfl
    exact .failed loc

/-- An event that lies somewhere has an item with what is found there as its result. -/
lemma resultsIn_ok_iff {input : Input α} {p : Point α} {item : Item α}
    (loc : input.event.locate = .ok p) :
    ResultsIn a e input item ↔
      ∃ place, FoundAt a e p place ∧ item = .found input place.1 place.2 := by
  constructor
  · intro own
    cases own with
    | failed loc' => cases loc.symm.trans loc'
    | found loc' there =>
      cases loc.symm.trans loc'
      exact ⟨_, there, rfl⟩
  · rintro ⟨place, there, rfl⟩
    exact .found loc there

/-- The places of the located events, put between the other events, make the items one by one. -/
lemma forall₂_assemble_iff {inputs : List (Input α)} {items : List (Item α)} :
    List.Forall₂ (ResultsIn a e) inputs items ↔
      ∃ found, List.Forall₂ (FoundAt a e) (located inputs) found ∧
        items = assemble inputs found := by
  induction inputs generalizing items with
  | nil =>
    constructor
    · intro each
      cases each
      exact ⟨[], .nil, rfl⟩
    · rintro ⟨found, -, rfl⟩
      exact .nil
  | cons input inputs ih =>
    rw [List.forall₂_cons_left_iff]
    unfold assemble
    cases loc : input.event.locate with
    | error error =>
      -- nothing was found for this event, so that all of it is left for those after it
      simp only [located_cons_error loc, resultsIn_error_iff loc, ih]
      constructor
      · rintro ⟨_, _, rfl, ⟨found, each, rfl⟩, rfl⟩
        exact ⟨found, each, rfl⟩
      · rintro ⟨found, each, rfl⟩
        exact ⟨_, _, rfl, ⟨found, each, rfl⟩, rfl⟩
    | ok p =>
      simp only [located_cons_ok loc, resultsIn_ok_iff loc, ih]
      constructor
      · rintro ⟨_, _, ⟨place, there, rfl⟩, ⟨found, each, rfl⟩, rfl⟩
        exact ⟨place :: found, .cons there each, rfl⟩
      · rintro ⟨_, each, rfl⟩
        cases each with
        | cons there each => exact ⟨_, _, ⟨_, there, rfl⟩, ⟨_, each, rfl⟩, rfl⟩

/-- What a batch comes to, event by event. -/
lemma enrich_eq_pure_iff (he : e.gateway = a.gateway) {inputs : List (Input α)}
    {result : BatchResult α} :
    e.enrich inputs = pure result ↔
      ∃ items, List.Forall₂ (ResultsIn a e) inputs items ∧ result = .ofItems items := by
  show e.lookUp (located inputs) >>= _ = _ ↔ _
  rw [bind_eq_pure_iff]
  simp only [eachBy_lookUp he (located inputs), forall₂_assemble_iff, pure_inj]
  constructor
  · rintro ⟨found, each, rfl⟩
    exact ⟨_, ⟨found, each, rfl⟩, rfl⟩
  · rintro ⟨_, ⟨found, each, rfl⟩, rfl⟩
    exact ⟨found, each, rfl⟩

/-- Where every plan is answered, every event has a result. -/
lemma exists_resultsIn (cm : a.Complete) (input : Input α) : ∃ item, ResultsIn a e input item := by
  cases loc : input.event.locate with
  | error error => exact ⟨_, .failed loc⟩
  | ok p =>
    obtain ⟨location, locates⟩ := cm.locates p
    obtain ⟨stops, nears⟩ :=
      cm.nears e.matcher e.matcher.defaultRadius e.matcher.defaultLimit p
    have there : FoundAt a e p (location, walked e.router p stops) := ⟨locates, stops, nears, rfl⟩
    exact ⟨_, .found loc there⟩

/-- Two batches that are enriched together give what they give one by one. -/
lemma enrich_append_iff (he : e.gateway = a.gateway) {xs ys : List (Input α)}
    {result : BatchResult α} :
    e.enrich (xs ++ ys) = pure result ↔
      ∃ rx ry, e.enrich xs = pure rx ∧ e.enrich ys = pure ry ∧ result = rx.append ry := by
  simp only [enrich_eq_pure_iff he, forall₂_append_iff]
  constructor
  · rintro ⟨_, ⟨items, items', each, each', rfl⟩, rfl⟩
    exact ⟨_, _, ⟨items, each, rfl⟩, ⟨items', each', rfl⟩, BatchResult.ofItems_append _ _⟩
  · rintro ⟨_, _, ⟨items, each, rfl⟩, ⟨items', each', rfl⟩, rfl⟩
    exact ⟨_, ⟨items, items', each, each', rfl⟩, (BatchResult.ofItems_append _ _).symm⟩

/-- A batch of one event gives the item of the event. -/
lemma enrich_single_iff (he : e.gateway = a.gateway) {input : Input α} {item : Item α} :
    e.enrich [input] = pure (.ofItems [item]) ↔ ResultsIn a e input item := by
  rw [enrich_eq_pure_iff he]
  constructor
  · rintro ⟨items, each, eq⟩
    cases congrArg BatchResult.items eq
    cases each with
    | cons own _ => exact own
  · exact fun own => ⟨_, .cons own .nil, rfl⟩

variable (e) in
/-- Batching changes no result. -/
structure Transparent : Prop where
  /-- Batches that are put together give what they give apart, one after the other. -/
  append (xs ys : List (Input α)) (result : BatchResult α) :
    e.enrich (xs ++ ys) = pure result ↔
      ∃ rx ry, e.enrich xs = pure rx ∧ e.enrich ys = pure ry ∧ result = rx.append ry
  /-- Every event gives in a batch what it gives alone. -/
  alone (xs : List (Input α)) (result : BatchResult α) :
    e.enrich xs = pure result ↔ result = .ofItems result.items ∧
      List.Forall₂ (fun x item => e.enrich [x] = pure (.ofItems [item])) xs result.items
  /-- With the events the items are permuted. -/
  perm {xs ys : List (Input α)} {rx : BatchResult α} :
    xs.Perm ys → e.enrich xs = pure rx →
      ∃ ry, e.enrich ys = pure ry ∧ (xs.zip rx.items).Perm (ys.zip ry.items)
  /-- An event that cannot be located changes no other item. -/
  invalid {bad : Input α} {error : ItemError α} (xs ys : List (Input α)) (result : BatchResult α) :
    bad.event.locate = .error error → (e.enrich (xs ++ bad :: ys) = pure result ↔
      ∃ before after, before.length = xs.length ∧
        e.enrich (xs ++ ys) = pure (.ofItems (before ++ after)) ∧
        result = .ofItems (before ++ .failed bad error :: after))

/-- **Batching is transparent.** Over a gateway that answers every plan for itself, whatever the
router, a batch fails just where one of its events fails alone, and else gives what its events give
alone; where every plan is answered, it does not fail. -/
theorem enrich_transparent (he : e.gateway = a.gateway) :
    e.Transparent ∧ (a.Complete → ∀ inputs, ∃ result, e.enrich inputs = pure result) := by
  refine ⟨⟨?append, ?alone, ?perm, ?invalid⟩, ?complete⟩
  case append => exact fun _ _ _ => enrich_append_iff he
  case alone =>
    intro xs result
    simp only [enrich_single_iff he]
    rw [enrich_eq_pure_iff he]
    constructor
    · rintro ⟨items, each, rfl⟩
      exact ⟨rfl, each⟩
    · exact fun ⟨eq, each⟩ => ⟨_, each, eq⟩
  case perm =>
    intro xs ys rx perm run
    obtain ⟨items, each, rfl⟩ := (enrich_eq_pure_iff he).1 run
    obtain ⟨items', each', perm'⟩ := forall₂_perm perm each
    exact ⟨_, (enrich_eq_pure_iff he).2 ⟨items', each', rfl⟩, perm'⟩
  case invalid =>
    intro bad error xs ys result loc
    simp only [enrich_eq_pure_iff he, forall₂_append_iff, List.forall₂_cons_left_iff,
      resultsIn_error_iff loc]
    constructor
    · rintro ⟨_, ⟨before, _, each, ⟨_, after, rfl, each', rfl⟩, rfl⟩, rfl⟩
      exact ⟨before, after, each.length_eq.symm, ⟨_, ⟨_, _, each, each', rfl⟩, rfl⟩, rfl⟩
    · rintro ⟨before, after, len, ⟨_, ⟨first, last, each, each', rfl⟩, eq⟩, rfl⟩
      obtain ⟨rfl, rfl⟩ := List.append_inj (congrArg BatchResult.items eq)
        (len.trans each.length_eq)
      exact ⟨_, ⟨_, _, each, ⟨_, _, rfl, each', rfl⟩, rfl⟩, rfl⟩
  case complete =>
    intro cm inputs
    obtain ⟨items, each⟩ := exists_forall₂ fun input (_ : input ∈ inputs) =>
      exists_resultsIn (e := e) cm input
    exact ⟨_, (enrich_eq_pure_iff he).2 ⟨items, each, rfl⟩⟩

end Enricher

end Batches

section Memory

variable {α : Type} [Scalar α] [Measured α] (data : MapData α)

/-- What is answered from memory to every single plan. -/
def MapData.answers : PlanAnswers α where
  boundaries plan := plan.execute .boundaries data.boundaries
  stops plan := (plan.execute .stops data.stops).map (·.map (hit plan))
  lines plan := (plan.execute .lines data.lines).map (·.map (·.line))

/-- Map data answer plan by plan. -/
lemma MapData.gateway_answers : data.gateway Id = data.answers.gateway := rfl

/-- Map data answer every plan that can be executed. -/
lemma MapData.complete_answers : data.answers.Complete where
  boundaries ex := ⟨_, ex.execute _⟩
  stops ex := ⟨_, congrArg (Except.map _) (ex.execute _)⟩
  lines ex := ⟨_, congrArg (Except.map _) (ex.execute _)⟩

end Memory

section Sample

/-- Answers with the distance as the crow flies, at a metre a second. -/
noncomputable def crowRouter : Router Id ℝ where
  matrix origins destinations := pure (origins.map fun o => destinations.map fun d =>
    some ⟨o.distance d, o.distance d⟩)

/-- Over the stop in the north batching is transparent, and every batch succeeds. -/
theorem Enricher.northern_stop_batches :
    let e : Enricher Id ℝ := ⟨(MapData.ofFeatures [] [northernStop] []).gateway Id, .standard,
      some crowRouter⟩
    e.Transparent ∧ ∀ inputs, ∃ result, e.enrich inputs = pure result := by
  intro e
  obtain ⟨transparent, succeeds⟩ := enrich_transparent (e := e) (MapData.gateway_answers _)
  exact ⟨transparent, succeeds (MapData.complete_answers _)⟩

end Sample

end Whereabouts
