import Whereabouts.Proofs.Enrich.Legs

/-!
# A router adds ways to a batch, and nothing else

With a router a batch comes to the same as without one, but for the ways to the stops. The stops
near each point get the ways that the router answers for this point, or none; what it answers for
other points does not matter.

* `BatchResult.unwalked`: a result without the ways.
* `Enricher.unwalked_outcome`: a router changes nothing but the ways.
* `Enricher.exists_states`: what the item for each point holds.
* `Router.AnswersAs`: a router that answers the requests for a point in one way.
* `Enricher.enrich_walked`: the main statement.
-/

namespace Whereabouts

section Unwalked

variable {α : Type}

/-- An item without the ways to its stops. -/
def Item.unwalked (item : Item α) : Item α :=
  { item with nearestStops := item.nearestStops.map (·.map NearestStop.unwalked) }

/-- A result without the ways to the stops. -/
def BatchResult.unwalked (result : BatchResult α) : BatchResult α :=
  { result with items := result.items.map Item.unwalked }

/-- A result without ways is made of the items without ways. -/
lemma BatchResult.unwalked_ofItems (items : List (Item α)) :
    (ofItems items).unwalked = ofItems (items.map Item.unwalked) := by
  have success : (items.map Item.unwalked).countP Item.isSuccess = items.countP Item.isSuccess :=
    List.countP_map
  unfold ofItems unwalked
  rw [success, List.length_map]

variable [Scalar α]

/-- The items without the ways are put together from what was found without the ways. -/
lemma Enricher.map_unwalked_assemble (inputs : List (Input α))
    (found : List (Option Hierarchy × List (NearestStop α))) :
    (assemble inputs found).map Item.unwalked =
      assemble inputs (found.map (Prod.map id (·.map NearestStop.unwalked))) := by
  induction inputs generalizing found with
  | nil => rfl
  | cons input inputs ih =>
    unfold assemble
    cases input.event.locate with
    | error e => exact congrArg (Item.failed input e :: ·) (ih found)
    | ok =>
      cases found with
      | nil => exact ih []
      | cons place found => exact congrArg (Item.found input place.1 _ :: ·) (ih found)

/-- The stops are found without the ways to them. -/
lemma Gateway.map_unwalked_nearestAll {σ : Type} {g : Gateway (StateM σ) α}
    {config : MatcherConfig α} {points : List (Point α)} {radius : α} {limit : Nat} {s s' : σ}
    {stops : List (List (NearestStop α))}
    (run : (g.nearestAll config points radius limit).run.run s = (.ok stops, s')) :
    stops.map (·.map NearestStop.unwalked) = stops := by
  by_cases none : points = []
  · subst none
    cases run
    rfl
  · rw [nearestAll_eq_ask g config none] at run
    obtain ⟨hits, s1, -, run⟩ := run_bind_inv run
    obtain ⟨-, s2, -, run⟩ := run_bind_inv run
    obtain ⟨lines, s3, -, run⟩ := run_bind_inv run
    obtain ⟨-, s4, -, run⟩ := run_bind_inv run
    cases run
    rw [List.map_zipWith]
    simp only [List.map_zipWith]
    rfl

end Unwalked

section Traversal

variable {σ β γ : Type}

/-- A traversal goes from state to state, one for each item. -/
lemma exists_states_mapM (f : β → StateM σ γ) (bs : List β) (s : σ) :
    ∃ states : Nat → σ, states 0 = s ∧ ∀ i b, bs[i]? = some b →
      ((bs.mapM f).run s).1[i]? = some ((f b).run (states i)).1 ∧
      states (i + 1) = ((f b).run (states i)).2 := by
  induction bs generalizing s with
  | nil => exact ⟨fun _ => s, rfl, nofun⟩
  | cons first bs ih =>
    obtain ⟨states, start, later⟩ := ih ((f first).run s).2
    refine ⟨fun i => i.casesOn s states, rfl, fun i b here => ?_⟩
    rw [List.mapM_cons]
    cases i with
    | zero =>
      cases here
      exact ⟨rfl, start⟩
    | succ i => exact later i b here

end Traversal

namespace Router

variable {σ α : Type}

/-- A router answers the requests for the ways from a point in one way, whenever it is asked. -/
def AnswersAs (router : Router (StateM σ) α) (p : Point α)
    (answers : List (Point α) → Except RoutingError (Matrix α)) : Prop :=
  ∀ places s, ((router.matrix [p] places).run.run s).1 = answers places

/-- Two computations whose parts result in the same do so, whatever their states are. -/
lemma fst_run_bind {ε β γ : Type} {x y : ExceptT ε (StateM σ) β} {f g : β → ExceptT ε (StateM σ) γ}
    {s t : σ} (first : (x.run.run s).1 = (y.run.run t).1)
    (later : ∀ b s t, ((f b).run.run s).1 = ((g b).run.run t).1) :
    ((x >>= f).run.run s).1 = ((y >>= g).run.run t).1 := by
  cases run : x.run.run s with
  | mk result s1 =>
    cases run' : y.run.run t with
    | mk result' t1 =>
      rw [run, run'] at first
      obtain rfl : result = result' := first
      cases result with
      | error e => rw [Gateway.run_bind_refused run, Gateway.run_bind_refused run']
      | ok b =>
        rw [Gateway.run_bind_ok run, Gateway.run_bind_ok run']
        exact later b s1 t1

section Alike

variable {router router' : Router (StateM σ) α} {p : Point α}
  {answers : List (Point α) → Except RoutingError (Matrix α)}

/-- Routers that answer alike fill in the same chunk. -/
lemma AnswersAs.fst_run_fill (as : router.AnswersAs p answers) (as' : router'.AnswersAs p answers)
    {places : List (Point α)} {c : Chunk} {maxPoints : Nat} (ft : c.Fits 1 places.length maxPoints)
    (matrix : Matrix α) (s t : σ) : ((router.fill [p] places matrix c).run.run s).1 =
      ((router'.fill [p] places matrix c).run.run t).1 := by
  have own : c.origins.slice [p] = [p] := request_origins ft
  unfold fill
  rw [own]
  refine fst_run_bind ((as _ s).trans (as' _ t).symm) fun part s t => ?_
  cases Matrix.checkShape c part with
  | error => rfl
  | ok => rfl

/-- Routers that answer alike fill in the same chunks. -/
lemma AnswersAs.fst_run_foldlM (as : router.AnswersAs p answers)
    (as' : router'.AnswersAs p answers) {places : List (Point α)} {chunks : List Chunk}
    {maxPoints : Nat} (ft : ∀ c ∈ chunks, c.Fits 1 places.length maxPoints) (matrix : Matrix α)
    (s t : σ) : ((chunks.foldlM (router.fill [p] places) matrix).run.run s).1 =
      ((chunks.foldlM (router'.fill [p] places) matrix).run.run t).1 := by
  induction chunks generalizing matrix s t with
  | nil => rfl
  | cons c rest ih =>
    rw [List.foldlM_cons, List.foldlM_cons]
    refine fst_run_bind (as.fst_run_fill as' (ft c List.mem_cons_self) matrix s t) ?_
    exact ih fun d mem => ft d (List.mem_cons_of_mem c mem)

/-- The ways from a point are what the router answers for this point. -/
lemma AnswersAs.fst_run_addLegs (as : router.AnswersAs p answers)
    (as' : router'.AnswersAs p answers) (stops : List (NearestStop α)) (s t : σ) :
    ((Enricher.addLegs router p stops).run s).1 = ((Enricher.addLegs router' p stops).run t).1 := by
  unfold Enricher.addLegs
  split
  next => rfl
  next some =>
    have places : 0 < (stops.map (·.stop.location)).length := by
      rw [List.length_map]
      exact List.length_pos_iff.2 (by simpa using some)
    have room : 2 ≤ maxMatrixPoints := by decide
    obtain ⟨chunks, eq, tl⟩ := partition_tiles (List.length_pos_iff.2 (List.cons_ne_nil p []))
      places room
    have same : ((router.routeMatrix [p] (stops.map (·.stop.location))).run.run s).1 =
        ((router'.routeMatrix [p] (stops.map (·.stop.location))).run.run t).1 := by
      rw [run_routeMatrix router eq, run_routeMatrix router' eq]
      exact as.fst_run_foldlM as' tl.fits _ s t
    rw [StateT.run_bind, StateT.run_bind]
    cases run : (router.routeMatrix [p] (stops.map (·.stop.location))).run.run s with
    | mk result s1 =>
      cases run' : (router'.routeMatrix [p] (stops.map (·.stop.location))).run.run t with
      | mk result' t1 =>
        rw [run, run'] at same
        obtain rfl : result = result' := same
        cases result with
        | error e => rfl
        | ok matrix => rfl

end Alike

end Router

namespace Enricher

variable {σ α : Type} [Scalar α] [Measured α] {g : Gateway (StateM σ) α} {config : MatcherConfig α}
  {inputs : List (Input α)} {s s' : σ} {found : List (List (Boundary α))}
  {stops : List (List (NearestStop α))}

omit [Measured α] in
/-- An event that lies somewhere leaves points to ask about. -/
lemma located_ne_nil {i : Nat} {input : Input α} {p : Point α} (here : inputs[i]? = some input)
    (loc : input.event.locate = .ok p) : located inputs ≠ [] := by
  have mem : p ∈ located inputs :=
    List.mem_filterMap.2 ⟨input, List.mem_of_getElem? here, by rw [loc]; rfl⟩
  exact List.ne_nil_of_mem mem

/-- What comes of a batch in a state, with a router or without one. -/
def outcome (g : Gateway (StateM σ) α) (config : MatcherConfig α)
    (router : Option (Router (StateM σ) α)) (inputs : List (Input α)) (s : σ) :
    Except EnrichError (BatchResult α) :=
  (((⟨g, config, router⟩ : Enricher (StateM σ) α).enrich inputs).run.run s).1

/-- A batch without points, or one that the gateway refuses, does not come to a router. -/
lemma outcome_cases (g : Gateway (StateM σ) α) (config : MatcherConfig α) (inputs : List (Input α))
    (s : σ) :
    (located inputs = [] ∧ ∀ router, outcome g config router inputs s =
      .ok (.ofItems (assemble inputs []))) ∨
    (∃ error, ∀ router, outcome g config router inputs s = .error error) ∨
    ∃ found stops s', g.Tells config (located inputs) s found stops s' ∧
      ∀ router, outcome g config router inputs s =
        .ok (.ofItems (assemble inputs ((found.map Hierarchy.ofBoundaries).zip
          ((addAllLegs router (located inputs) stops).run s').1))) := by
  by_cases some : located inputs = []
  · refine .inl ⟨some, fun router => ?_⟩
    unfold outcome
    rw [enrich_of_none some]
    rfl
  right
  obtain ⟨cause, rf⟩ | ⟨found, stops, s', tl⟩ :=
    (⟨g, config, none⟩ : Enricher (StateM σ) α).refuses_or_tells some s
  · refine .inl ⟨.store cause, fun router => ?_⟩
    exact @run_enrich_of_refuses _ _ _ _ ⟨g, config, router⟩ _ _ _ some rf
  · refine .inr ⟨found, stops, s', tl, fun router => ?_⟩
    exact @run_enrich_of_tells _ _ _ _ ⟨g, config, router⟩ _ _ _ _ _ some tl

/-- The stops were found without the ways to them. -/
lemma map_unwalked_of_tells (tl : g.Tells config (located inputs) s found stops s') :
    stops.map (·.map NearestStop.unwalked) = stops := by
  cases tl with
  | mk _ run _ => exact Gateway.map_unwalked_nearestAll run

/-- There are as many hierarchies and lists of stops as points. -/
lemma length_of_tells (tl : g.Tells config (located inputs) s found stops s') :
    found.length = (located inputs).length ∧ stops.length = (located inputs).length := by
  cases tl with
  | mk an _ len => exact ⟨an.length_eq, len⟩

/-- Without the ways, the stops are those that were found. -/
lemma map_unwalked_addAllLegs (router : Option (Router (StateM σ) α))
    (tl : g.Tells config (located inputs) s found stops s') :
    ((addAllLegs router (located inputs) stops).run s').1.map (·.map NearestStop.unwalked) =
      stops := by
  have ways := sameButWays_addAllLegs router (length_of_tells tl).2 s'
  have same : List.Forall₂ Eq (stops.map (·.map NearestStop.unwalked))
      (((addAllLegs router (located inputs) stops).run s').1.map (·.map NearestStop.unwalked)) :=
    List.forall₂_map_left_iff.2 (List.forall₂_map_right_iff.2 (ways.imp fun _ _ => Eq.symm))
  rw [List.forall₂_eq_eq_eq, map_unwalked_of_tells tl] at same
  exact same.symm

/-- With a router a batch comes to the same as without one, but for the ways. -/
lemma unwalked_outcome (g : Gateway (StateM σ) α) (config : MatcherConfig α)
    (router : Router (StateM σ) α) (inputs : List (Input α)) (s : σ) :
    (outcome g config (some router) inputs s).map BatchResult.unwalked =
      outcome g config none inputs s := by
  obtain ⟨-, same⟩ | ⟨error, same⟩ | ⟨found, stops, s', tl, same⟩ := outcome_cases g config inputs s
  · rw [same, same]
    show Except.ok _ = Except.ok _
    rw [BatchResult.unwalked_ofItems, map_unwalked_assemble]
    rfl
  · rw [same, same]
    rfl
  · rw [same, same]
    show Except.ok _ = Except.ok _
    rw [BatchResult.unwalked_ofItems, map_unwalked_assemble, ← List.zip_map_right,
      map_unwalked_addAllLegs (some router) tl]
    rfl

/-- The item for a located event holds the stops that were found near its point, with the ways that
are asked for in the state that the points before it have led to. -/
lemma exists_states (router : Router (StateM σ) α)
    (tl : g.Tells config (located inputs) s found stops s') :
    ∃ states : Nat → σ, ∀ (i : Nat) (input : Input α) (p : Point α), inputs[i]? = some input →
      input.event.locate = .ok p → ∃ location near,
        (found.map Hierarchy.ofBoundaries)[slot inputs i]? = some location ∧
        stops[slot inputs i]? = some near ∧
        states (slot inputs i + 1) = ((addLegs router p near).run (states (slot inputs i))).2 ∧
        (assemble inputs ((found.map Hierarchy.ofBoundaries).zip
          ((addAllLegs (some router) (located inputs) stops).run s').1))[i]? =
            some (.found input location ((addLegs router p near).run (states (slot inputs i))).1) := by
  obtain ⟨length_found, length_stops⟩ := length_of_tells tl
  have ways := sameButWays_addAllLegs (some router) length_stops s'
  have places : ((found.map Hierarchy.ofBoundaries).zip
      ((addAllLegs (some router) (located inputs) stops).run s').1).length =
        (located inputs).length := by
    rw [List.length_zip, List.length_map, length_found, ← ways.length_eq, length_stops, Nat.min_self]
  obtain ⟨states, -, each⟩ := exists_states_mapM
    (fun pair => addLegs router pair.1 pair.2) ((located inputs).zip stops) s'
  refine ⟨states, fun i input p here loc => ?_⟩
  obtain ⟨point, ⟨location, walked⟩, place, item⟩ := getElem?_assemble places here loc
  obtain ⟨left, right⟩ := List.getElem?_zip_eq_some.1 place
  obtain ⟨near, there, -⟩ := exists_getElem?_of_forall₂ ways right
  obtain ⟨made, next⟩ := each (slot inputs i) (p, near)
    (List.getElem?_zip_eq_some.2 ⟨point, there⟩)
  obtain rfl : walked = _ := Option.some.inj (right.symm.trans made)
  exact ⟨location, near, left, there, next, item⟩

/-- The stops near a point were found without the ways to them. -/
lemma unwalked_of_tells (tl : g.Tells config (located inputs) s found stops s')
    {near : List (NearestStop α)} (there : near ∈ stops) : ∀ stop ∈ near, stop.unwalked = stop := by
  have bare : near.map NearestStop.unwalked = near :=
    List.map_inj_left.1 ((map_unwalked_of_tells tl).trans (List.map_id stops).symm) near there
  exact List.map_inj_left.1 (bare.trans (List.map_id near).symm)

/-- **A router adds ways to a batch, and nothing else.** Whatever the gateway and the router do, a
batch fails or succeeds with the router as without it, and results in the same but for the ways. For
each point the stops near it get the ways out of the cells that the router answers for the point and
the stop, when all requests for the point are answered in the right shape, and are all without when
one is not. What a router answers for other points does not matter for a point. -/
theorem enrich_walked (g : Gateway (StateM σ) α) (config : MatcherConfig α)
    (router : Router (StateM σ) α) (inputs : List (Input α)) (s : σ) :
    (outcome g config (some router) inputs s).map BatchResult.unwalked =
      outcome g config none inputs s ∧
    (∀ result, outcome g config (some router) inputs s = .ok result →
      ∃ states : Nat → σ, ∀ (i : Nat) (input : Input α) (p : Point α), inputs[i]? = some input →
        input.event.locate = .ok p → ∃ item near walked, result.items[i]? = some item ∧
          item.nearestStops = some walked ∧ item.unwalked.nearestStops = some near ∧
          router.Walks p near (states (slot inputs i)) walked (states (slot inputs i + 1))) ∧
    ∀ router' result result', outcome g config (some router) inputs s = .ok result →
      outcome g config (some router') inputs s = .ok result' →
      ∀ (i : Nat) (input : Input α) (p : Point α), inputs[i]? = some input →
        input.event.locate = .ok p →
        (∃ answers, router.AnswersAs p answers ∧ router'.AnswersAs p answers) →
        result'.items[i]? = result.items[i]? := by
  refine ⟨unwalked_outcome g config router inputs s, fun result run => ?_,
    fun router' result result' run run' i input p here loc => ?_⟩
  · obtain ⟨none, same⟩ | ⟨error, same⟩ | ⟨found, stops, s', tl, same⟩ :=
      outcome_cases g config inputs s
    · exact ⟨fun _ => s, fun i input p here loc => absurd none (located_ne_nil here loc)⟩
    · cases run.symm.trans (same _)
    cases run.symm.trans (same _)
    obtain ⟨states, each⟩ := exists_states router tl
    refine ⟨states, fun i input p here loc => ?_⟩
    obtain ⟨location, near, -, there, next, item⟩ := each i input p here loc
    have none := unwalked_of_tells tl (List.mem_of_getElem? there)
    have bare : near.map NearestStop.unwalked = near :=
      (List.map_congr_left none).trans (List.map_id near)
    refine ⟨_, near, _, item, rfl, ?_, next ▸ walks_addLegs router p none _⟩
    exact congrArg some ((sameButWays_addLegs router p near _).trans bare)
  · rintro ⟨answers, as, as'⟩
    obtain ⟨none, same⟩ | ⟨error, same⟩ | ⟨found, stops, s', tl, same⟩ :=
      outcome_cases g config inputs s
    · exact absurd none (located_ne_nil here loc)
    · cases run.symm.trans (same _)
    cases run.symm.trans (same _)
    cases run'.symm.trans (same _)
    obtain ⟨states, each⟩ := exists_states router tl
    obtain ⟨states', each'⟩ := exists_states router' tl
    obtain ⟨location, near, left, there, -, item⟩ := each i input p here loc
    obtain ⟨location', near', left', there', -, item'⟩ := each' i input p here loc
    cases left.symm.trans left'
    cases there.symm.trans there'
    refine item'.trans (Eq.trans ?_ item.symm)
    rw [as.fst_run_addLegs as' near _ (states' (slot inputs i))]

end Enricher

end Whereabouts
