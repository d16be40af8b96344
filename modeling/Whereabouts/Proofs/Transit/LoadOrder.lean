import Whereabouts.Proofs.Store.Radius
import Whereabouts.Proofs.Transit.LineSearch
import Whereabouts.Proofs.Transit.Ranking
import Whereabouts.Proofs.Transit.Routes

/-!
# The order in which lines were loaded

The lines that serve a stop are found nearest first, and of each route the first one is kept. So the
one that is kept is as near as any of its route, and where it is nearer than all others of its route
it is kept in whichever order the lines were loaded. Variants of a route that are as near as each
other are found in the order in which the index holds them, and this does depend on the order in
which they were loaded.

* `LineFeature.Nearest`, `LineFeature.Settled`: the nearest variants of a route.
* `LineFeature.annotates_found`: the lines that are reported are nearest ones of their routes.
* `Gateway.nearestAll_reloaded`: the reports before and after the lines are loaded in another order.
* `LineFeature.found_alike`: of lines with one track the last one that was loaded comes first.
* `Gateway.later_variant_reported`: two variants of a route, loaded in both orders.
-/

namespace Whereabouts

namespace LineFeature

variable {α : Type} [Scalar α]

/-- The lines that serve a place: those near the rectangle around it that pass within the distance. -/
def serving (features : List (LineFeature α)) (point : Point α) (threshold : α)
    (modes : List Mode) : List (LineFeature α) :=
  features.filter fun f =>
    FeatureIndex.near (Envelope.aroundMetres point threshold) f && f.passes point threshold modes

/-- A variant of a route that is as near as any other one. -/
structure Nearest (variants : List (LineFeature α)) (point : Point α) (f : LineFeature α) :
    Prop where
  mem : f ∈ variants
  least : ∀ g ∈ variants, g.line.dedupKey = f.line.dedupKey →
    Scalar.rankLe (f.distance point) (g.distance point) = true

/-- One variant of a route alone is as near as any other one. -/
def Settled (variants : List (LineFeature α)) (point : Point α) (route : String) : Prop :=
  ∀ f g, Nearest variants point f → Nearest variants point g → f.line.dedupKey = route →
    g.line.dedupKey = route → f = g

/-- The lines have one for each route, a nearest variant. -/
structure Annotates (variants : List (LineFeature α)) (point : Point α) (lines : List Line) :
    Prop where
  routes : (lines.map Line.dedupKey).Nodup
  covers : ∀ f ∈ variants, ∃ line ∈ lines, line.dedupKey = f.line.dedupKey
  nearest : ∀ line ∈ lines, ∃ f, Nearest variants point f ∧ f.line = line

/-- What is reported of a place before and after the lines are loaded in another order: nearest
lines of the same routes, the same one of every settled route, and so the same lines where all routes
are settled. -/
structure Reloaded (variants : List (LineFeature α)) (point : Point α) (lines lines' : List Line) :
    Prop where
  before : Annotates variants point lines
  after : Annotates variants point lines'
  settled : ∀ line : Line, Settled variants point line.dedupKey → (line ∈ lines' ↔ line ∈ lines)
  unchanged : (∀ f ∈ variants, Settled variants point f.line.dedupKey) → lines' = lines

section Variants

variable {variants found : List (LineFeature α)} {point : Point α} {route : String}

/-- The nearest variant of a line is so in whatever order the variants were found. -/
lemma Nearest.of_perm (perm : found.Perm variants) {f : LineFeature α} (h : Nearest found point f) :
    Nearest variants point f :=
  ⟨perm.mem_iff.1 h.mem, fun g hg => h.least g (perm.mem_iff.2 hg)⟩

/-- A route with one line is settled. -/
lemma settled_of_nodup {features : List (LineFeature α)}
    (routes : (features.map (·.line.dedupKey)).Nodup) (sub : variants ⊆ features) :
    Settled variants point route := fun _ _ nearest nearest' same same' =>
  List.inj_on_of_nodup_map routes (sub nearest.mem) (sub nearest'.mem) (same.trans same'.symm)

variable [Std.TransCmp (Scalar.rank (α := α))] (sorted : found.Pairwise fun f g =>
  Scalar.rankLe (f.distance point) (g.distance point) = true)

include sorted

/-- The first line of a route is a nearest one where lines are sorted by distance. -/
lemma nearest_of_first {line : Line}
    (first : Line.firstOf? (found.map (·.line)) route = some line) :
    ∃ f, Nearest found point f ∧ f.line = line := by
  unfold Line.firstOf? at first
  rw [List.find?_map, Option.map_eq_some_iff] at first
  obtain ⟨f, first, rfl⟩ := first
  obtain ⟨same, before, after, rfl, others⟩ := List.find?_eq_some_iff_append.1 first
  have same : f.line.dedupKey = route := beq_iff_eq.1 same
  refine ⟨f, ⟨List.mem_append_right _ List.mem_cons_self, fun g hg route_eq => ?_⟩, rfl⟩
  rcases List.mem_append.1 hg with hg | hg
  · -- what stands before the first of its route is of another route
    have other := others g hg
    rw [Function.comp_apply, route_eq, same, beq_self_eq_true] at other
    cases other
  · rcases List.mem_cons.1 hg with rfl | hg
    · exact congrArg Ordering.isLE Std.ReflCmp.compare_self
    · exact (List.pairwise_cons.1 (List.pairwise_append.1 sorted).2.1).1 g hg

variable (perm : found.Perm variants)

include perm

/-- The lines that are kept of those that are sorted by distance are nearest ones of their routes. -/
lemma annotates_dedup :
    Annotates variants point (Line.dedup (found.map (·.line))) where
  routes := (Line.keepsFirst_dedup _).routes
  covers f hf := by
    have mem : f.line ∈ found.map (·.line) := List.mem_map_of_mem (perm.mem_iff.2 hf)
    obtain ⟨line, first⟩ := Line.exists_first mem
    have same := Line.route_of_first first
    exact ⟨line, ((Line.keepsFirst_dedup _).mem_iff line).2 (same ▸ first), same⟩
  nearest line hl := by
    obtain ⟨f, nearest, e⟩ := nearest_of_first sorted (((Line.keepsFirst_dedup _).mem_iff line).1 hl)
    exact ⟨f, nearest.of_perm perm, e⟩

variable {others : List (LineFeature α)} (sorted' : others.Pairwise fun f g =>
  Scalar.rankLe (f.distance point) (g.distance point) = true) (perm' : others.Perm variants)

include sorted' perm'

/-- The first line of a settled route does not depend on the order of the lines. -/
lemma first_of_settled (settled : Settled variants point route) :
    Line.firstOf? (others.map (·.line)) route = Line.firstOf? (found.map (·.line)) route := by
  have lines := (perm'.trans perm.symm).map (·.line)
  cases first : Line.firstOf? (found.map (·.line)) route with
  | none =>
    unfold Line.firstOf? at *
    rw [List.find?_eq_none] at *
    exact fun line mem => first line (lines.mem_iff.1 mem)
  | some line =>
    have same := Line.route_of_first first
    obtain ⟨line', first'⟩ := Line.exists_first (lines.mem_iff.2 (Line.mem_of_first first))
    rw [same] at first'
    have same' := Line.route_of_first first'
    obtain ⟨f, nearest, rfl⟩ := nearest_of_first sorted first
    obtain ⟨g, nearest', rfl⟩ := nearest_of_first sorted' first'
    rw [first', settled f g (nearest.of_perm perm) (nearest'.of_perm perm') same same']

/-- Where every line is found once, loading the lines in another order changes nothing. -/
lemma reloaded_dedup (ids : (found.map (·.line.id)).Nodup) :
    Reloaded variants point (Line.dedup (found.map (·.line))) (Line.dedup (others.map (·.line))) where
  before := annotates_dedup sorted perm
  after := annotates_dedup sorted' perm'
  settled line settled := by
    rw [(Line.keepsFirst_dedup _).mem_iff, (Line.keepsFirst_dedup _).mem_iff,
      first_of_settled sorted perm sorted' perm' settled]
  unchanged all := by
    apply Line.dedup_eq_of_first
    · rw [List.map_map]
      exact ids
    · intro route
      by_cases known : ∃ f ∈ variants, f.line.dedupKey = route
      · obtain ⟨f, hf, rfl⟩ := known
        exact first_of_settled sorted perm sorted' perm' (all f hf)
      · -- of a route without lines none comes first
        refine first_of_settled sorted perm sorted' perm' fun f g nearest _ same => ?_
        exact absurd ⟨f, nearest.mem, same⟩ known

end Variants

section Alike

variable {features : List (LineFeature α)} (like : LineFeature α)

/-- A few lines with one track are looked at together or not at all, the last one first. -/
lemma candidates_alike (few : features.length ≤ Packing.capacity)
    (alike : ∀ f ∈ features, f.track = like.track) (bound : Envelope α) :
    (FeatureIndex.ofList features).candidates bound = features.reverse ∨
      (FeatureIndex.ofList features).candidates bound = [] := by
  -- all entries have one extent, or there is none
  have entries : features.filterMap FeatureIndex.entry? =
      features.filterMap fun f => (envelope? like).map fun e => ⟨f, e.upright⟩ := by
    apply List.filterMap_congr
    intro f hf
    show (Envelope.bounding? f.track.flatten).map _ = _
    rw [alike f hf]
    rfl
  unfold FeatureIndex.candidates FeatureIndex.ofList
  rw [entries]
  cases envelope? like with
  | none =>
    right
    have nothing : features.filterMap (fun f => (none : Option (Envelope α)).map fun e =>
        Indexed.mk f e.upright) = [] := List.filterMap_eq_nil_iff.2 fun _ _ => rfl
    rw [nothing]
    exact congrArg (List.map _) (FeatureIndex.touching_nil _)
  | some e =>
    have all : features.filterMap (fun f => (some e).map fun e => Indexed.mk f e.upright) =
        features.map fun f => ⟨f, e.upright⟩ := congrFun List.filterMap_eq_map features
    have one : ∀ entry ∈ (features.map fun f => Indexed.mk f e.upright).reverse,
        entry.extent = e.upright := by
      intro entry mem
      obtain ⟨f, -, rfl⟩ := List.mem_map.1 (List.mem_reverse.1 mem)
      rfl
    rw [all, Packing.pack_few (by rwa [List.length_map])]
    refine (FeatureIndex.touching_alike one bound.parts).imp (fun h => ?_) fun h => ?_ <;> rw [h]
    · rw [← List.map_reverse, List.map_map]
      exact List.map_id _
    · rfl

/-- Of a few lines with one track and one mode the one that was loaded last is found first. -/
lemma found_alike [Std.TransCmp (Scalar.rank (α := α))] {point : Point α} {threshold : α}
    {modes : List Mode} (few : features.length ≤ Packing.capacity)
    (alike : ∀ f ∈ features, f.track = like.track ∧ f.line.mode = like.line.mode) :
    found features point threshold modes = features.reverse ∨
      found features point threshold modes = [] := by
  have distance {f : LineFeature α} (hf : f ∈ features) : f.distance point = like.distance point := by
    unfold LineFeature.distance
    rw [(alike f hf).1]
  have passes {f : LineFeature α} (hf : f ∈ features) :
      (Plan.linesNear point threshold modes).predicate.test f =
        like.passes point threshold modes := by
    rw [test_linesNear]
    unfold LineFeature.passes
    rw [distance hf, (alike f hf).2]
  have hits : found features point threshold modes = (Plan.linesNear point threshold modes).arrange
      (((FeatureIndex.ofList features).candidates (Envelope.aroundMetres point threshold)).filter
        fun f => (Plan.linesNear point threshold modes).predicate.test f) := by
    have bound : (Plan.linesNear point threshold modes).predicate.bound? = _ :=
      Plan.bound_within ..
    unfold found Plan.answer Plan.hits?
    rw [bound]
    rfl
  rw [hits]
  have looked := candidates_alike like few (fun f hf => (alike f hf).1)
    (Envelope.aroundMetres point threshold)
  rcases looked with h | h <;> rw [h]
  · cases h : like.passes point threshold modes with
    | true =>
      left
      rw [List.filter_eq_self.2 fun f hf => (passes (List.mem_reverse.1 hf)).trans h]
      exact Plan.arrange_alike fun f hf => distance (List.mem_reverse.1 hf)
    | false =>
      right
      rw [List.filter_eq_nil_iff.2]
      · exact (Plan.arrange_perm _ _).eq_nil
      · intro f hf
        rw [passes (List.mem_reverse.1 hf), h]
        exact Bool.false_ne_true
  · exact .inr (Plan.arrange_perm _ _).eq_nil

end Alike

end LineFeature

/-- What is reported of a stop is its bare report and the lines. -/
lemma NearestStop.eq_of_bare {α : Type} {a b : NearestStop α} (bare : b.bare = a.bare)
    (lines : b.lines = a.lines) : b = a := by
  have whole (r : NearestStop α) : r = { r.bare with lines := r.lines } := rfl
  rw [whole a, whole b, bare, lines]

namespace Gateway

open LineFeature

variable {α : Type} [Scalar α] [Measured α]

/-- **The order in which lines were loaded** does not matter for which stops are reported. Each stop
is reported with lines of the same routes, one of each, of which no variant that serves the stop is
nearer. Where one variant alone is nearest, it is reported in either order, and where this is so of
all routes that serve the stop, the lines are the same. -/
theorem nearestAll_reloaded [Std.TransCmp (Scalar.rank (α := α))]
    {features features' : List (LineFeature α)} (perm : features'.Perm features)
    (ids : (features.map (·.line.id)).Nodup) (boundaries : List (Boundary α))
    (stops : List (Stop α)) (config : MatcherConfig α) (points : List (Point α)) (radius : α)
    (limit : Nat) :
    ∃ slots slots' : List (List (NearestStop α)),
      ((MapData.ofFeatures boundaries stops features).gateway Id).nearestAll config points radius
        limit = pure slots ∧
      ((MapData.ofFeatures boundaries stops features').gateway Id).nearestAll config points radius
        limit = pure slots' ∧
      List.Forall₂ (List.Forall₂ fun a b => b.bare = a.bare ∧
        Reloaded (serving features a.stop.location config.lineProximity (Tier.modesOf a.priority))
          a.stop.location a.lines b.lines) slots slots' := by
  refine ⟨_, _, each_nearestAll _ config radius limit points,
    each_nearestAll _ config radius limit points, ?_⟩
  rw [List.forall₂_map_left_iff, List.forall₂_map_right_iff, List.forall₂_same]
  intro p _
  unfold reportsOf
  dsimp only
  rw [List.zipWith_map_right, List.zipWith_self, List.zipWith_map_right, List.zipWith_self,
    List.forall₂_map_left_iff]
  show List.Forall₂ _ _ ((selectedOf (MapData.ofFeatures boundaries stops features) config radius
    limit p).map _)
  rw [List.forall₂_map_right_iff, List.forall₂_same]
  intro s _
  refine ⟨rfl, ?_⟩
  have variants : (found features s.1.stop.location config.lineProximity s.2.modes).Perm
      (serving features s.1.stop.location config.lineProximity s.2.modes) := found_perm features
  have variants' : (found features' s.1.stop.location config.lineProximity s.2.modes).Perm
      (serving features s.1.stop.location config.lineProximity s.2.modes) :=
    (found_perm features').trans (perm.filter _)
  have found_ids := (variants.map (·.line.id)).nodup_iff.2 (ids.sublist (List.filter_sublist.map _))
  unfold report
  dsimp only
  rw [Tier.modesOf_number]
  exact reloaded_dedup (found_sorted features) variants (found_sorted features') variants' found_ids

end Gateway

section Sample

/-- The place of a stop on the equator. -/
noncomputable def centre : Point EReal := Point.map (↑) (⟨0, 0.5⟩ : Point ℝ)

noncomputable def centreStop : Stop EReal :=
  .ofNames "node/1" ⟨[(Names.defaultKey, "Centre")], List.pairwise_singleton _ _⟩ .metro centre

/-- A line of the metro along the equator, through the stop. -/
noncomputable def metroLine (id reference : String) : LineFeature EReal :=
  ⟨⟨id, some reference, "", none, .metro⟩, ((equatorLine 0 1).map (↑)).track⟩

/-- The centre is a valid place among the reals. -/
lemma centre_real_valid : (⟨0, 0.5⟩ : Point ℝ).isValid = true :=
  Point.isValid_real.2 (by norm_num)

/-- The centre is a valid place. -/
lemma centre_valid : centre.isValid = true := (extended.isValid _).trans centre_real_valid

/-- The lines of the metro run through the centre. -/
lemma metroLine_distance (id reference : String) : (metroLine id reference).distance centre = 0 := by
  apply LineFeature.distance_equator
  · rw [LineFeature.eastward_eq 1] <;> norm_num
  · rw [LineFeature.eastward_eq 1] <;> norm_num

/-- The lines along the equator serve the stop. -/
lemma metroLine_serves (id reference : String) {modes : List Mode} (metro : .metro ∈ modes) :
    (FeatureIndex.near (Envelope.aroundMetres centre (100.0 : ℝ)) (metroLine id reference) &&
      (metroLine id reference).passes centre (100.0 : ℝ) modes) = true := by
  have near : (metroLine id reference).distance centre < (100.0 : ℝ) := by
    rw [metroLine_distance]
    exact EReal.coe_lt_coe_iff.2 (by norm_num)
  have places : ∀ v ∈ (metroLine id reference).track.flatten, v.isValid = true := by
    rintro v (_ | ⟨_, _ | ⟨_, ⟨⟩⟩⟩)
    · exact (extended.isValid _).trans (Point.isValid_real.2 (by norm_num))
    · exact (extended.isValid _).trans (Point.isValid_real.2 (by norm_num))
  have unbroken : (metroLine id reference).Unbroken centre := by
    refine (extended.unbroken (f := equatorLine 0 1)).2 ?_
    rintro part (_ | ⟨_, ⟨⟩⟩) piece (_ | ⟨_, ⟨⟩⟩)
    show LineFeature.eastward _ _ - LineFeature.eastward _ _ = (1 : ℝ) - 0
    rw [LineFeature.eastward_eq 1, LineFeature.eastward_eq 1] <;> norm_num
  rw [LineFeature.near_of_passes places centre_valid unbroken near.le (.inl near), Bool.true_and]
  have listed : modes.contains (metroLine id reference).line.mode = true :=
    List.contains_iff_mem.2 metro
  unfold LineFeature.passes
  rw [decide_eq_true near.le, listed, Bool.or_true, Bool.true_and]

/-- Of two lines the one that was loaded later is found first. -/
lemma found_metroLines (id id' reference : String) :
    LineFeature.found [metroLine id reference, metroLine id' reference] centre (100.0 : ℝ)
      Tier.rail.modes = [metroLine id' reference, metroLine id reference] := by
  have few : [metroLine id reference, metroLine id' reference].length ≤ Packing.capacity :=
    show 2 ≤ 6 by decide
  have metro : Mode.metro ∈ Tier.rail.modes := by decide
  refine (LineFeature.found_alike (metroLine id reference) few ?_).resolve_right fun none => ?_
  · rintro f (_ | ⟨_, _ | ⟨_, ⟨⟩⟩⟩)
    · exact ⟨rfl, rfl⟩
    · exact ⟨rfl, rfl⟩
  · have mem := (LineFeature.found_perm [metroLine id reference, metroLine id' reference]).mem_iff.2
      (List.mem_filter.2 ⟨List.mem_cons_self, metroLine_serves id reference metro⟩)
    rw [none] at mem
    cases mem

/-- The stop that stands at the place, as it is found from there. -/
noncomputable def centreHit : StopHit EReal := ⟨centreStop, centre.distance centre⟩

/-- The stop at the centre lies within the radius of the search. -/
lemma centre_near : centre.distance centreStop.location ≤ (1500.0 : ℝ) := by
  show centre.distance centre ≤ _
  rw [centre, Point.distance_extended, Point.distance_of_lon_eq centre_real_valid centre_real_valid
    rfl]
  exact EReal.coe_le_coe_iff.2 (by norm_num)

/-- The square around the centre covers the centre. -/
lemma centre_covered : (Envelope.aroundMetres centre (1500.0 : ℝ)).covers centre = true := by
  rw [centre, ← extended.aroundMetres, extended.covers]
  apply Envelope.covers_aroundMetres centre_real_valid centre_real_valid (by norm_num)
  rw [Point.distance_of_lon_eq centre_real_valid centre_real_valid rfl]
  norm_num

/-- The stop is found where stops of the metro are looked for. -/
lemma stopsOf_centre (lines : List (LineFeature EReal)) (tier : Tier) :
    (MapData.ofFeatures [] [centreStop] lines).stopsOf ⟨centre, (1500.0 : ℝ), none, tier.modes⟩ =
      if tier = .rail then [centreHit] else [] := by
  have valid : ∀ s ∈ [centreStop], s.location.isValid = true := fun s hs =>
    List.mem_singleton.1 hs ▸ centre_valid
  have perm : ((Plan.nearestStops centre ((1500.0 : ℝ) : EReal) none tier.modes).answer
      (.ofList [centreStop])).Perm _ := answer_nearestStops valid
  have hits : (MapData.ofFeatures [] [centreStop] lines).stopsOf
      ⟨centre, (1500.0 : ℝ), none, tier.modes⟩ =
        ((Plan.nearestStops centre ((1500.0 : ℝ) : EReal) none tier.modes).answer
          (.ofList [centreStop])).map fun s => ⟨s, centre.distance s.location⟩ := rfl
  rw [hits]
  split
  next e =>
    have found : (Plan.nearestStops centre ((1500.0 : ℝ) : EReal) none tier.modes).predicate.test
        centreStop = true := (test_nearestStops none).2 ⟨.inr (e ▸ by decide), centre_near⟩
    have covered : (Envelope.aroundMetres centre ((1500.0 : ℝ) : EReal)).covers
        centreStop.location = true := centre_covered
    rw [List.filter_cons, covered, found] at perm
    rw [List.perm_singleton.1 perm]
    rfl
  next ne =>
    have other : (Plan.nearestStops centre ((1500.0 : ℝ) : EReal) none tier.modes).predicate.test
        centreStop = false := by
      rw [Bool.eq_false_iff, Ne, test_nearestStops]
      intro within
      cases tier with
      | rail => exact ne rfl
      | street => exact absurd within.listed (by decide)
      | fallback => exact absurd within.listed (by decide)
    rw [List.filter_cons, other, Bool.and_false] at perm
    rw [perm.eq_nil]
    rfl

/-- The stop alone is reported, with the lines found around it. -/
lemma nearestAll_centre (lines : List (LineFeature EReal)) :
    ((MapData.ofFeatures [] [centreStop] lines).gateway Id).nearestAll .standard [centre]
      (1500.0 : ℝ) 5 = pure [[Gateway.report (centreHit, .rail)
        ((LineFeature.found lines centre (100.0 : ℝ) Tier.rail.modes).map (·.line))]] := by
  have selected : Gateway.selectedOf (MapData.ofFeatures [] [centreStop] lines) .standard
      (1500.0 : ℝ) 5 centre = [(centreHit, .rail)] := by
    have radius : (MatcherConfig.standard : MatcherConfig EReal).effectiveRadius (1500.0 : ℝ) =
        (1500.0 : ℝ) := by
      unfold MatcherConfig.effectiveRadius
      split <;> rfl
    have alone : StopHit.dedup [centreHit] = [centreHit] := List.mergeSort_singleton _
    have nothing : StopHit.dedup ([] : List (StopHit EReal)) = [] := List.mergeSort_nil
    unfold Gateway.selectedOf
    rw [radius]
    simp only [stopsOf_centre]
    show fillByTier [(.rail, StopHit.dedup [centreHit]), (.street, StopHit.dedup [])] 5 = _
    rw [alone, nothing]
    rfl
  refine (Gateway.each_nearestAll _ _ _ _ _).trans ?_
  rw [List.map_singleton]
  unfold Gateway.reportsOf
  rw [selected]
  rfl

/-- Two lines through a stop are reported alike in whichever order they were loaded, where each is
alone on its route. -/
theorem Gateway.two_routes_reloaded :
    ∃ slots, ((MapData.ofFeatures [] [centreStop] [metroLine "relation/1" "L3",
        metroLine "relation/2" "L4"]).gateway Id).nearestAll .standard [centre] (1500.0 : ℝ) 5 =
          pure slots ∧
      ((MapData.ofFeatures [] [centreStop] [metroLine "relation/2" "L4",
        metroLine "relation/1" "L3"]).gateway Id).nearestAll .standard [centre] (1500.0 : ℝ) 5 =
          pure slots := by
  obtain ⟨slots, slots', run, run', agree⟩ := nearestAll_reloaded
    (List.Perm.swap (metroLine "relation/1" "L3") (metroLine "relation/2" "L4") [])
    (by decide) [] [centreStop] .standard [centre] (1500.0 : ℝ) 5
  have routes : ([metroLine "relation/1" "L3", metroLine "relation/2" "L4"].map
      (·.line.dedupKey)).Nodup := by decide +kernel
  have same : List.Forall₂ (List.Forall₂ (· = ·)) slots slots' := by
    refine agree.imp fun _ _ each => each.imp fun a b ⟨bare, reloaded⟩ => ?_
    have lines := reloaded.unchanged fun f _ =>
      LineFeature.settled_of_nodup routes (List.filter_subset_self _)
    exact (NearestStop.eq_of_bare bare lines).symm
  rw [List.forall₂_eq_eq_eq, List.forall₂_eq_eq_eq] at same
  exact ⟨slots, run, same ▸ run'⟩

/-- Of two variants of one route the one that was loaded later is reported, so that the report
changes with the order in which they were loaded. -/
theorem Gateway.later_variant_reported :
    let features := [metroLine "relation/1" "L3", metroLine "relation/2" "L3"]
    let search (features : List (LineFeature EReal)) :=
      ((MapData.ofFeatures [] [centreStop] features).gateway Id).nearestAll .standard [centre]
        (1500.0 : ℝ) 5
    (features.map (·.line.id)).Nodup ∧ features.reverse.Perm features ∧
      ∃ slots slots', search features = pure slots ∧ search features.reverse = pure slots' ∧
        slots.map (·.map (·.lines.map (·.id))) = [[["relation/2"]]] ∧
        slots'.map (·.map (·.lines.map (·.id))) = [[["relation/1"]]] := by
  have later (id id' : String) : Gateway.report (centreHit, .rail)
      ((LineFeature.found [metroLine id "L3", metroLine id' "L3"] centre (100.0 : ℝ)
        Tier.rail.modes).map (·.line)) =
      ⟨centreStop, centre.distance centre, 1, [(metroLine id' "L3").line], none, none⟩ := by
    have same : (metroLine id "L3").line.dedupKey = (metroLine id' "L3").line.dedupKey := rfl
    rw [found_metroLines]
    unfold Gateway.report
    rw [List.map_cons, List.map_singleton, Line.dedup_pair same]
    rfl
  intro features search
  have distinct : (features.map (·.line.id)).Nodup := by decide
  refine ⟨distinct, List.reverse_perm _, _, _, nearestAll_centre _, nearestAll_centre _, ?_, ?_⟩
  · rw [later]
    rfl
  · show List.map _ [[Gateway.report _ (List.map _ (LineFeature.found [metroLine "relation/2" "L3",
      metroLine "relation/1" "L3"] _ _ _))]] = _
    rw [later]
    rfl

end Sample

end Whereabouts
