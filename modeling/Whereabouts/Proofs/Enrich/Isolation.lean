import Whereabouts.Proofs.Transit.Ranking

/-!
# What a batch ends in

Whatever the gateway and the router do, a batch of events ends in one of two ways. Either a call of
the gateway went wrong, which takes a point to ask about, and the failure is that of the call; or
there is one item for each event, in order, in which nothing comes from another event.

* `Gateway.Refuses`: a call of the gateway went wrong.
* `Enricher.refuses_or_tells`: else there is one location and one list of stops for each point.
* `Enricher.Aligned`: the items for the located events hold what was found for these.
* `Enricher.enrich_isolated`: the main statement.
-/

namespace Whereabouts

/-- There is one group for each item that groups are dealt to. -/
lemma length_deal {β γ : Type} (size : β → Nat) (bs : List β) (items : List γ) :
    (deal size bs items).length = bs.length := by
  induction bs generalizing items with
  | nil => rfl
  | cons b bs ih => exact congrArg Nat.succ (ih _)

namespace Gateway

variable {σ γ β : Type}

/-- A call was answered, with as many slots as there were plans. -/
structure Answers (call : ExceptT StoreError (StateM σ) (List γ)) (expected : Nat) (s : σ)
    (slots : List γ) (s' : σ) : Prop where
  run_eq : call.run.run s = (.ok slots, s')
  length_eq : slots.length = expected

/-- A call went wrong: it failed, or it was answered with another number of slots. -/
inductive Fails (layer : Layer) (call : ExceptT StoreError (StateM σ) (List γ)) (expected : Nat)
    (s : σ) : StoreError → Prop where
  | refused {cause s'} :
    call.run.run s = (.error cause, s') →
    Fails layer call expected s cause
  | misaligned {slots s'} :
    call.run.run s = (.ok slots, s') →
    slots.length ≠ expected →
    Fails layer call expected s (.misaligned layer slots.length expected)

section Calls

variable {layer : Layer} {call : ExceptT StoreError (StateM σ) (List γ)} {expected : Nat} {s : σ}

/-- A computation whose first part is refused ends there, with the state it has reached. -/
lemma run_bind_refused {ε : Type} {x : ExceptT ε (StateM σ) γ} {f : γ → ExceptT ε (StateM σ) β}
    {error : ε} {s' : σ} (h : x.run.run s = (.error error, s')) :
    (x >>= f).run.run s = (.error error, s') := by
  rw [ExceptT.run_bind, StateT.run_bind, h]
  rfl

/-- Where the first part of a computation fails, the whole does. -/
lemma run_bind_error {ε : Type} {x : ExceptT ε (StateM σ) γ} {f : γ → ExceptT ε (StateM σ) β}
    {error : ε} (h : (x.run.run s).1 = .error error) : ((x >>= f).run.run s).1 = .error error := by
  have refused : x.run.run s = (.error error, (x.run.run s).2) := Prod.ext h rfl
  exact congrArg Prod.fst (run_bind_refused refused)

/-- Another number of slots than expected is refused. -/
lemma run_misaligned (layer : Layer) {got expected : Nat} (ne : got ≠ expected) (s : σ) :
    (ensureAligned (m := StateM σ) layer got expected).run.run s =
      (.error (.misaligned layer got expected), s) := by
  unfold ensureAligned
  rw [if_neg ne]
  rfl

/-- A call goes wrong, or it is answered with as many slots as expected. -/
lemma fails_or_answers (layer : Layer) (call : ExceptT StoreError (StateM σ) (List γ))
    (expected : Nat) (s : σ) :
    (∃ cause, Fails layer call expected s cause) ∨
      ∃ slots s', Answers call expected s slots s' := by
  cases run : call.run.run s with
  | mk result s' =>
    cases result with
    | error cause => exact .inl ⟨cause, .refused run⟩
    | ok slots =>
      by_cases len : slots.length = expected
      · exact .inr ⟨slots, s', run, len⟩
      · exact .inl ⟨_, .misaligned run len⟩

/-- A call that goes wrong ends the computation. -/
lemma Fails.run_bind {cause : StoreError} (fl : Fails layer call expected s cause)
    (f : List γ → ExceptT StoreError (StateM σ) β) :
    ((call >>= fun slots => ensureAligned layer slots.length expected >>= fun _ => f slots).run.run
      s).1 = .error cause := by
  cases fl with
  | refused run => exact run_bind_error (congrArg Prod.fst run)
  | misaligned run ne =>
    rw [run_bind_ok run]
    exact run_bind_error (congrArg Prod.fst (run_misaligned layer ne _))

/-- A call that is answered hands its slots on. -/
lemma Answers.run_bind {slots : List γ} {s' : σ} (an : Answers call expected s slots s')
    (f : List γ → ExceptT StoreError (StateM σ) β) :
    (call >>= fun slots => ensureAligned layer slots.length expected >>= fun _ => f slots).run.run s
      = (f slots).run.run s' := by
  rw [run_bind_ok an.run_eq, run_bind_ok (run_ensureAligned layer an.length_eq s')]

end Calls

variable {α : Type} [Scalar α]

/-- The requests for the stops near points. -/
def stopRequests (config : MatcherConfig α) (radius : α) (points : List (Point α)) :
    List (StopRequest α) :=
  tierRequests config.tiers (config.effectiveRadius radius) points

/-- The stops that are selected near points out of what was found. -/
def selectedNear (config : MatcherConfig α) (limit : Nat) (points : List (Point α))
    (hits : List (List (StopHit α))) : List (List (StopHit α × Tier)) :=
  (deal (fun _ => config.tiers.length) points hits).map
    (select config.tiers (config.effectiveLimit limit))

/-- The plans for the lines of the stops that are selected. -/
def linePlans (config : MatcherConfig α) (limit : Nat) (points : List (Point α))
    (hits : List (List (StopHit α))) : List (Plan α) :=
  (selectedNear config limit points hits).flatten.map (linePlan config)

/-- One of the two calls of a search went wrong. -/
inductive RefusesStops (g : Gateway (StateM σ) α) (config : MatcherConfig α)
    (points : List (Point α)) (radius : α) (limit : Nat) (s : σ) : StoreError → Prop where
  | stops {cause} :
    Fails .stops (g.nearestStopsAll (stopRequests config radius points))
      (stopRequests config radius points).length s cause →
    RefusesStops g config points radius limit s cause
  | lines {hits s' cause} :
    Answers (g.nearestStopsAll (stopRequests config radius points))
      (stopRequests config radius points).length s hits s' →
    linePlans config limit points hits ≠ [] →
    Fails .lines (g.lines (linePlans config limit points hits))
      (linePlans config limit points hits).length s' cause →
    RefusesStops g config points radius limit s cause

/-- A search around some points is two calls: that for the stops and that for the lines. -/
lemma nearestAll_eq_ask {m : Type → Type} [Monad m] [LawfulMonad m] (g : Gateway m α)
    (config : MatcherConfig α) {points : List (Point α)} (some : points ≠ []) (radius : α)
    (limit : Nat) :
    g.nearestAll config points radius limit =
      g.nearestStopsAll (stopRequests config radius points) >>= fun hits =>
        ensureAligned .stops hits.length (stopRequests config radius points).length >>= fun _ =>
          g.askLines (linePlans config limit points hits) >>= fun lines =>
            ensureAligned .lines lines.length
                (linePlans config limit points hits).length >>= fun _ =>
              pure ((selectedNear config limit points hits).zipWith
                (fun stops lines => stops.zipWith report lines)
                (deal List.length (selectedNear config limit points hits) lines)) := by
  unfold nearestAll findAll
  rw [if_neg (by simpa using some)]
  simp only [bind_assoc, pure_bind]
  rfl

section Search

variable {g : Gateway (StateM σ) α} {config : MatcherConfig α} {points : List (Point α)}
  {radius : α} {limit : Nat} {s : σ} {cause : StoreError}

omit [Scalar α] in
/-- Asking for lines goes wrong only where lines are asked for. -/
lemma fails_askLines_iff {plans : List (Plan α)} :
    Fails .lines (g.askLines plans) plans.length s cause ↔
      plans ≠ [] ∧ Fails .lines (g.lines plans) plans.length s cause := by
  unfold askLines
  cases plans with
  | nil =>
    refine ⟨fun fl => ?_, fun ⟨ne, _⟩ => absurd rfl ne⟩
    cases fl with
    | refused run => cases run
    | misaligned run ne =>
      cases run
      exact absurd rfl ne
  | cons plan plans => exact ⟨fun fl => ⟨List.cons_ne_nil _ _, fl⟩, fun ⟨_, fl⟩ => fl⟩

/-- A search one of whose calls went wrong ends with its failure. -/
lemma RefusesStops.run (some : points ≠ [])
    (rf : RefusesStops g config points radius limit s cause) :
    ((g.nearestAll config points radius limit).run.run s).1 = .error cause := by
  rw [nearestAll_eq_ask g config some]
  cases rf with
  | stops fl => exact fl.run_bind _
  | lines an asked fl =>
    rw [an.run_bind]
    exact (fails_askLines_iff.2 ⟨asked, fl⟩).run_bind _

/-- A call of a search goes wrong, or there is one slot for each point. -/
lemma nearestAll_cases (g : Gateway (StateM σ) α) (config : MatcherConfig α) (some : points ≠ [])
    (radius : α) (limit : Nat) (s : σ) :
    (∃ cause, RefusesStops g config points radius limit s cause) ∨
    ∃ stops s', (g.nearestAll config points radius limit).run.run s = (.ok stops, s') ∧
      stops.length = points.length := by
  rw [nearestAll_eq_ask g config some]
  rcases fails_or_answers .stops (g.nearestStopsAll (stopRequests config radius points))
    (stopRequests config radius points).length s with ⟨cause, fl⟩ | ⟨hits, s1, an⟩
  · exact .inl ⟨cause, .stops fl⟩
  rcases fails_or_answers .lines (g.askLines (linePlans config limit points hits))
    (linePlans config limit points hits).length s1 with ⟨cause, fl⟩ | ⟨lines, s2, an'⟩
  · obtain ⟨asked, fl'⟩ := fails_askLines_iff.1 fl
    exact .inl ⟨cause, .lines an asked fl'⟩
  right
  rw [an.run_bind, an'.run_bind]
  refine ⟨_, s2, rfl, ?_⟩
  rw [List.length_zipWith, length_deal, Nat.min_self, selectedNear, List.length_map, length_deal]

end Search

/-- A call of the gateway went wrong when it was asked about some points. -/
inductive Refuses (g : Gateway (StateM σ) α) (config : MatcherConfig α) (points : List (Point α))
    (s : σ) : StoreError → Prop where
  | boundaries {cause} :
    Fails .boundaries (g.containingAll points) points.length s cause →
    Refuses g config points s cause
  | nearest {found s' cause} :
    Answers (g.containingAll points) points.length s found s' →
    RefusesStops g config points config.defaultRadius config.defaultLimit s' cause →
    Refuses g config points s cause

/-- The gateway has answered what it was asked about points: the boundaries around each of them, and
the stops near each of them. -/
inductive Tells [Measured α] (g : Gateway (StateM σ) α) (config : MatcherConfig α)
    (points : List (Point α)) (s : σ) (found : List (List (Boundary α)))
    (stops : List (List (NearestStop α))) (s' : σ) : Prop where
  | mk {s1} :
    Answers (g.containingAll points) points.length s found s1 →
    (g.nearestAll config points config.defaultRadius config.defaultLimit).run.run s1 =
      (.ok stops, s') →
    stops.length = points.length →
    Tells g config points s found stops s'

variable [Measured α]

/-- Resolving some points is one call to the gateway. -/
lemma resolveAll_eq_ask {m : Type → Type} [Monad m] (g : Gateway m α) {points : List (Point α)}
    (some : points ≠ []) :
    g.resolveAll points = g.containingAll points >>= fun found =>
      ensureAligned .boundaries found.length points.length >>= fun _ =>
        pure (found.map Hierarchy.ofBoundaries) := by
  unfold resolveAll
  exact if_neg (by simpa using some)

/-- Hierarchies are built from what the gateway answers. -/
lemma Answers.run_resolveAll {g : Gateway (StateM σ) α} {points : List (Point α)} {s s' : σ}
    {found : List (List (Boundary α))} (some : points ≠ [])
    (an : Answers (g.containingAll points) points.length s found s') :
    (g.resolveAll points).run.run s = (.ok (found.map Hierarchy.ofBoundaries), s') := by
  rw [resolveAll_eq_ask g some, an.run_bind]
  rfl

end Gateway

section Legs

variable {σ α : Type}

/-- A stop without the way to it. -/
def NearestStop.unwalked (stop : NearestStop α) : NearestStop α :=
  { stop with walkingDistance := none, walkingDuration := none }

/-- Two lists of stops are the same but for the ways to the stops. -/
def NearestStop.SameButWays (stops walked : List (NearestStop α)) : Prop :=
  walked.map unwalked = stops.map unwalked

/-- A stop without its way does not show which way it was given. -/
lemma NearestStop.unwalked_withLeg (stop : NearestStop α) (leg : Option (Leg α)) :
    (stop.withLeg leg).unwalked = stop.unwalked := by
  cases leg with
  | none => rfl
  | some leg => rfl

/-- Stops without their ways do not show which ways they were given. -/
lemma NearestStop.map_unwalked_withLegs (stops : List (NearestStop α))
    (legs : List (Option (Leg α))) : (withLegs stops legs).map unwalked = stops.map unwalked := by
  induction stops generalizing legs with
  | nil => rfl
  | cons stop stops ih =>
    cases legs with
    | nil => rfl
    | cons leg legs =>
      unfold withLegs
      rw [List.map_cons, List.map_cons, ih, unwalked_withLeg]

/-- The ways change nothing else of the stops of a point. -/
lemma Enricher.sameButWays_addLegs (router : Router (StateM σ) α) (point : Point α)
    (stops : List (NearestStop α)) (s : σ) :
    NearestStop.SameButWays stops ((addLegs router point stops).run s).1 := by
  unfold addLegs
  split
  next => exact rfl
  next =>
    rw [StateT.run_bind]
    cases (router.routeMatrix [point] (stops.map (·.stop.location))).run.run s with
    | mk result s' =>
      cases result with
      | ok matrix => exact NearestStop.map_unwalked_withLegs _ _
      | error => exact rfl

/-- What holds of each answer holds of the answers one by one. -/
lemma forall₂_run_mapM {β γ : Type} {f : β → StateM σ γ} {R : β → γ → Prop}
    (h : ∀ b s, R b ((f b).run s).1) (bs : List β) (s : σ) :
    List.Forall₂ R bs ((bs.mapM f).run s).1 := by
  induction bs generalizing s with
  | nil => exact .nil
  | cons b bs ih =>
    rw [List.mapM_cons]
    exact .cons (h b s) (ih ((f b).run s).2)

/-- Every point keeps its own stops when the ways are added. -/
lemma Enricher.sameButWays_addAllLegs (router : Option (Router (StateM σ) α))
    {points : List (Point α)} {stops : List (List (NearestStop α))}
    (len : stops.length = points.length) (s : σ) :
    List.Forall₂ NearestStop.SameButWays stops ((addAllLegs router points stops).run s).1 := by
  cases router with
  | none => exact List.forall₂_same.2 fun _ _ => rfl
  | some router =>
    have pairs : List.Forall₂ (fun (pair : Point α × List (NearestStop α)) walked =>
        NearestStop.SameButWays pair.2 walked) (points.zip stops)
          ((addAllLegs (some router) points stops).run s).1 :=
      forall₂_run_mapM (fun pair s => sameButWays_addLegs router pair.1 pair.2 s) _ s
    have own := List.forall₂_map_left_iff.2 pairs
    rwa [List.map_snd_zip (Nat.le_of_eq len)] at own

end Legs

section Alignment

variable {α : Type} [Scalar α] {inputs : List (Input α)}

/-- The points of the events that can be located. -/
def located (inputs : List (Input α)) : List (Point α) :=
  inputs.filterMap fun input => input.event.locate.toOption

/-- The slot of an event among the points: the number of events before it that can be located. -/
def slot (inputs : List (Input α)) (i : Nat) : Nat := (located (inputs.take i)).length

omit [Scalar α] in
/-- An item is a success or an error. -/
lemma BatchResult.success_add_errors (items : List (Item α)) :
    (ofItems items).success + (ofItems items).errors = (ofItems items).total :=
  Nat.add_sub_cancel' List.countP_le_length

/-- What is said of an event depends on this event, apart from what was found for it. -/
structure Item.Answers (input : Input α) (item : Item α) : Prop where
  index_eq : item.index = input.index
  propertyId_eq : item.propertyId = input.event.propertyId
  error_iff : item.error.isSome ↔ input.event.lat = none ∨ input.event.lon = none ∨
    ∃ p : Point α, input.event.lat = some p.lat ∧ input.event.lon = some p.lon ∧ p.isValid = false
  failed : item.error.isSome → item.location = none ∧ item.nearestStops = none
  found : item.error = none → item.nearestStops.isSome ∧
    ∀ h, item.location = some h →
      h.addressVisible = input.event.showAddress.getD input.event.hasStreetAddress

/-- An event cannot be located where a coordinate is missing or the point is not valid. -/
lemma Event.locate_eq_error_iff {event : Event α} : (∃ error, event.locate = .error error) ↔
    event.lat = none ∨ event.lon = none ∨
      ∃ p : Point α, event.lat = some p.lat ∧ event.lon = some p.lon ∧ p.isValid = false := by
  unfold locate point?
  cases event.lat with
  | none => exact ⟨fun _ => .inl rfl, fun _ => ⟨_, rfl⟩⟩
  | some lat =>
    cases event.lon with
    | none => exact ⟨fun _ => .inr (.inl rfl), fun _ => ⟨_, rfl⟩⟩
    | some lon =>
      show (∃ error, (if (⟨lat, lon⟩ : Point α).isValid then _ else _) = Except.error error) ↔ _
      cases valid : (⟨lat, lon⟩ : Point α).isValid with
      | true =>
        refine ⟨nofun, ?_⟩
        rintro (⟨⟨⟩⟩ | ⟨⟨⟩⟩ | ⟨⟨_, _⟩, ⟨⟩, ⟨⟩, invalid⟩)
        exact Bool.noConfusion (valid.symm.trans invalid)
      | false => exact ⟨fun _ => .inr (.inr ⟨_, rfl, rfl, valid⟩), fun _ => ⟨_, rfl⟩⟩

/-- An item that reports on an event answers it. -/
lemma Item.Reports.answers {input : Input α} {item : Item α} (rp : Item.Reports input item) :
    Item.Answers input item where
  index_eq := rp.index_eq
  propertyId_eq := rp.propertyId_eq
  error_iff := by
    rw [← Event.locate_eq_error_iff]
    cases rp with
    | failed loc => exact ⟨fun _ => ⟨_, loc⟩, fun _ => rfl⟩
    | found _ _ loc => exact ⟨nofun, fun ⟨_, loc'⟩ => nomatch loc.symm.trans loc'⟩
  failed := by
    cases rp with
    | failed => exact fun _ => ⟨rfl, rfl⟩
    | found => exact nofun
  found := by
    cases rp with
    | failed => exact nofun
    | found location stops =>
      refine fun _ => ⟨rfl, fun h eq => ?_⟩
      obtain ⟨h', -, rfl⟩ := Option.map_eq_some_iff.1 eq
      rfl

/-- An event that lies nowhere adds no point. -/
lemma located_cons_error {input : Input α} {error : ItemError α}
    (loc : input.event.locate = .error error) : located (input :: inputs) = located inputs := by
  unfold located
  rw [List.filterMap_cons, loc]
  rfl

/-- An event that lies somewhere adds its point. -/
lemma located_cons_ok {input : Input α} {p : Point α} (loc : input.event.locate = .ok p) :
    located (input :: inputs) = p :: located inputs := by
  unfold located
  rw [List.filterMap_cons, loc]
  rfl

/-- Results are put to the events that they were found for. -/
lemma getElem?_assemble {found : List (Option Hierarchy × List (NearestStop α))}
    (len : found.length = (located inputs).length) {i : Nat} {input : Input α} {p : Point α}
    (here : inputs[i]? = some input) (loc : input.event.locate = .ok p) :
    (located inputs)[slot inputs i]? = some p ∧
      ∃ place, found[slot inputs i]? = some place ∧
        (Enricher.assemble inputs found)[i]? = some (.found input place.1 place.2) := by
  induction inputs generalizing found i with
  | nil => cases here
  | cons first inputs ih =>
    unfold Enricher.assemble
    cases first_loc : first.event.locate with
    | error error =>
      -- nothing was found for the first event, so the others keep their slots
      rw [located_cons_error first_loc] at len ⊢
      cases i with
      | zero =>
        cases here
        cases loc.symm.trans first_loc
      | succ i =>
        have slot_eq : slot (first :: inputs) (i + 1) = slot inputs i := by
          unfold slot
          rw [List.take_succ_cons, located_cons_error first_loc]
        rw [slot_eq]
        exact ih len here
    | ok q =>
      -- the first event takes the first slot, and the others come one later
      rw [located_cons_ok first_loc] at len ⊢
      cases found with
      | nil => cases len
      | cons place found =>
        cases i with
        | zero =>
          cases here
          cases first_loc.symm.trans loc
          exact ⟨rfl, place, rfl, rfl⟩
        | succ i =>
          have slot_eq : slot (first :: inputs) (i + 1) = slot inputs i + 1 := by
            unfold slot
            rw [List.take_succ_cons, located_cons_ok first_loc, List.length_cons]
          rw [slot_eq]
          exact ih (Nat.succ.inj len) here

end Alignment

namespace Enricher

variable {σ α : Type} [Scalar α] [Measured α] {e : Enricher (StateM σ) α}

section Points

variable {points : List (Point α)} {s s' : σ} {cause : StoreError}
  {found : List (List (Boundary α))} {stops : List (List (NearestStop α))}

/-- The gateway refuses a call about some points, or tells what it is asked. -/
lemma refuses_or_tells (e : Enricher (StateM σ) α) (some : points ≠ []) (s : σ) :
    (∃ cause, e.gateway.Refuses e.matcher points s cause) ∨
      ∃ found stops s', e.gateway.Tells e.matcher points s found stops s' := by
  rcases Gateway.fails_or_answers .boundaries (e.gateway.containingAll points) points.length s with
    ⟨cause, fl⟩ | ⟨found, s1, an⟩
  · exact .inl ⟨cause, .boundaries fl⟩
  rcases Gateway.nearestAll_cases e.gateway e.matcher some e.matcher.defaultRadius
    e.matcher.defaultLimit s1 with ⟨cause, rf⟩ | ⟨stops, s2, run, len⟩
  · exact .inl ⟨cause, .nearest an rf⟩
  · exact .inr ⟨found, stops, s2, .mk an run len⟩

/-- A refused call ends the questions to the gateway. -/
lemma run_askGateway_of_refuses (some : points ≠ [])
    (rf : e.gateway.Refuses e.matcher points s cause) :
    ((e.askGateway points).run.run s).1 = .error cause := by
  cases rf with
  | boundaries fl =>
    have resolving : ((e.gateway.resolveAll points).run.run s).1 = .error cause := by
      rw [Gateway.resolveAll_eq_ask _ some]
      exact fl.run_bind _
    exact Gateway.run_bind_error resolving
  | nearest an rf =>
    unfold askGateway
    rw [Gateway.run_bind_ok (an.run_resolveAll some)]
    exact Gateway.run_bind_error (rf.run some)

/-- What the gateway tells is handed on: the hierarchies and the stops. -/
lemma run_askGateway_of_tells (some : points ≠ [])
    (tl : e.gateway.Tells e.matcher points s found stops s') :
    (e.askGateway points).run.run s = (.ok (found.map Hierarchy.ofBoundaries, stops), s') := by
  cases tl with
  | mk an run len =>
    unfold askGateway
    rw [Gateway.run_bind_ok (an.run_resolveAll some), Gateway.run_bind_ok run]
    rfl

/-- What is found for points that the gateway has answered. -/
def foundFrom (e : Enricher (StateM σ) α) (points : List (Point α))
    (found : List (List (Boundary α))) (stops : List (List (NearestStop α))) (s : σ) :
    List (Option Hierarchy × List (NearestStop α)) :=
  (found.map Hierarchy.ofBoundaries).zip ((addAllLegs e.router points stops).run s).1

/-- A refused call ends the look-up of points. -/
lemma run_lookUp_of_refuses (some : points ≠ [])
    (rf : e.gateway.Refuses e.matcher points s cause) :
    ((e.lookUp points).run.run s).1 = .error (.store cause) := by
  have asking : (((e.askGateway points).adapt EnrichError.store).run.run s).1 =
      .error (.store cause) :=
    congrArg (Except.mapError EnrichError.store) (run_askGateway_of_refuses some rf)
  unfold lookUp
  rw [if_neg (by simpa using some)]
  exact Gateway.run_bind_error asking

/-- The right number of results lets a computation go on. -/
lemma run_ensureResults (part : String) {got expected : Nat} (eq : got = expected) (s : σ) :
    (ensureResults (m := StateM σ) part got expected).run.run s = (.ok (), s) := by
  unfold ensureResults
  rw [if_pos eq]
  rfl

/-- What the gateway tells is found for the points, with the ways of a router. -/
lemma run_lookUp_of_tells (some : points ≠ [])
    (tl : e.gateway.Tells e.matcher points s found stops s') :
    ((e.lookUp points).run.run s).1 = .ok (e.foundFrom points found stops s') := by
  have asking : ((e.askGateway points).adapt EnrichError.store).run.run s =
      (.ok (found.map Hierarchy.ofBoundaries, stops), s') := by
    have run := run_askGateway_of_tells some tl
    show ((e.askGateway points).run.run s).map (Except.mapError EnrichError.store) id = _
    rw [run]
    rfl
  unfold lookUp
  rw [if_neg (by simpa using some), Gateway.run_bind_ok asking]
  cases tl with
  | mk an run len =>
    have places : (found.map Hierarchy.ofBoundaries).length = points.length := by
      rw [List.length_map, an.length_eq]
    rw [Gateway.run_bind_ok (run_ensureResults _ places s'),
      Gateway.run_bind_ok (run_ensureResults _ len s')]
    rfl

end Points

variable {inputs : List (Input α)} {s s' : σ} {cause : StoreError}
  {found : List (List (Boundary α))} {stops : List (List (NearestStop α))}

/-- The items for the events that can be located hold what the gateway answered for their points. -/
def Aligned (e : Enricher (StateM σ) α) (inputs : List (Input α)) (s : σ) (items : List (Item α)) :
    Prop :=
  ∃ found stops s', e.gateway.Tells e.matcher (located inputs) s found stops s' ∧
    ∀ i input p, inputs[i]? = some input → input.event.locate = .ok p →
      ∃ boundaries near walked, (located inputs)[slot inputs i]? = some p ∧
        found[slot inputs i]? = some boundaries ∧ stops[slot inputs i]? = some near ∧
        NearestStop.SameButWays near walked ∧
        items[i]? = some (.found input (Hierarchy.ofBoundaries boundaries) walked)

/-- A refused call fails the whole batch. -/
lemma run_enrich_of_refuses (some : located inputs ≠ [])
    (rf : e.gateway.Refuses e.matcher (located inputs) s cause) :
    ((e.enrich inputs).run.run s).1 = .error (.store cause) :=
  Gateway.run_bind_error (run_lookUp_of_refuses some rf)

/-- What the gateway tells is assembled to the items of the batch. -/
lemma run_enrich_of_tells (some : located inputs ≠ [])
    (tl : e.gateway.Tells e.matcher (located inputs) s found stops s') :
    ((e.enrich inputs).run.run s).1 =
      .ok (.ofItems (assemble inputs (e.foundFrom (located inputs) found stops s'))) := by
  have looking := run_lookUp_of_tells some tl
  cases run : (e.lookUp (located inputs)).run.run s with
  | mk result s1 =>
    rw [run] at looking
    cases looking
    exact congrArg Prod.fst (Gateway.run_bind_ok run)

/-- The items of a batch have what was told of their own points. -/
lemma aligned_of_tells (tl : e.gateway.Tells e.matcher (located inputs) s found stops s') :
    e.Aligned inputs s (assemble inputs (e.foundFrom (located inputs) found stops s')) := by
  refine ⟨found, stops, s', tl, fun i input p here loc => ?_⟩
  cases tl with
  | mk an _ len =>
    have ways := sameButWays_addAllLegs e.router len s'
    have places : (e.foundFrom (located inputs) found stops s').length =
        (located inputs).length := by
      unfold foundFrom
      rw [List.length_zip, List.length_map, an.length_eq, ← ways.length_eq, len, Nat.min_self]
    obtain ⟨point, ⟨location, walked⟩, place, item⟩ := getElem?_assemble places here loc
    obtain ⟨left, right⟩ := List.getElem?_zip_eq_some.1 place
    rw [List.getElem?_map] at left
    obtain ⟨boundaries, there, rfl⟩ := Option.map_eq_some_iff.1 left
    obtain ⟨near, stops_there, same⟩ := exists_getElem?_of_forall₂ ways right
    exact ⟨boundaries, near, walked, point, there, stops_there, same, item⟩

/-- Where no event lies anywhere, nothing is asked. -/
lemma enrich_of_none (none : located inputs = []) :
    e.enrich inputs = pure (.ofItems (assemble inputs [])) := by
  show e.lookUp (located inputs) >>= _ = _
  rw [none]
  rfl

/-- What a batch that is enriched results in. -/
lemma enrich_inv {result : BatchResult α} (run : ((e.enrich inputs).run.run s).1 = .ok result) :
    ∃ items, result = .ofItems items ∧ (located inputs ≠ [] → e.Aligned inputs s items) := by
  by_cases some : located inputs = []
  · rw [enrich_of_none some] at run
    cases run
    exact ⟨_, rfl, fun ne => absurd some ne⟩
  rcases e.refuses_or_tells some s with ⟨cause, rf⟩ | ⟨found, stops, s', tl⟩
  · cases run.symm.trans (run_enrich_of_refuses some rf)
  · cases run.symm.trans (run_enrich_of_tells some tl)
    exact ⟨_, rfl, fun _ => aligned_of_tells tl⟩

/-- **A batch fails as a whole or gives every event its own result.** It fails just where there is a
point to ask about and a call of the gateway went wrong, with the failure of that call. Else there
is one item for each event, in order, which tells what is wrong with the event or holds what was
answered for its own point. Without points nothing is asked. -/
theorem enrich_isolated (e : Enricher (StateM σ) α) (inputs : List (Input α)) :
    (∀ s error, ((e.enrich inputs).run.run s).1 = .error error ↔ located inputs ≠ [] ∧
      ∃ cause, error = .store cause ∧ e.gateway.Refuses e.matcher (located inputs) s cause) ∧
    (∀ s result, ((e.enrich inputs).run.run s).1 = .ok result →
      List.Forall₂ Item.Answers inputs result.items ∧
      result.total = inputs.length ∧ result.success + result.errors = result.total ∧
      result.success = result.items.countP (·.error.isNone) ∧
      (located inputs ≠ [] → e.Aligned inputs s result.items)) ∧
    (located inputs = [] →
      ∃ result, ∀ e : Enricher (StateM σ) α, e.enrich inputs = pure result) := by
  refine ⟨fun s error => ⟨fun run => ?_, ?_⟩, fun s result run => ?_, fun none => ?_⟩
  · by_cases some : located inputs = []
    · rw [enrich_of_none some] at run
      cases run
    refine ⟨some, ?_⟩
    rcases e.refuses_or_tells some s with ⟨cause, rf⟩ | ⟨found, stops, s', tl⟩
    · cases run.symm.trans (run_enrich_of_refuses some rf)
      exact ⟨cause, rfl, rf⟩
    · cases run.symm.trans (run_enrich_of_tells some tl)
  · rintro ⟨some, cause, rfl, rf⟩
    exact run_enrich_of_refuses some rf
  · have reports : List.Forall₂ Item.Reports inputs result.items := by
      cases whole : (e.enrich inputs).run.run s with
      | mk answer s' =>
        rw [whole] at run
        cases run
        exact e.enrich_reports whole
    obtain ⟨items, rfl, aligned⟩ := enrich_inv run
    exact ⟨reports.imp fun _ _ rp => rp.answers, reports.length_eq.symm,
      BatchResult.success_add_errors items, rfl, aligned⟩
  · exact ⟨_, fun e => enrich_of_none none⟩

end Enricher

end Whereabouts
