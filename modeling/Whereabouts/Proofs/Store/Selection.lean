import Whereabouts.Proofs.Geometry.Reals
import Whereabouts.Proofs.Store.Index
import Whereabouts.Store.Gateway

/-!
# What a plan selects

A plan is answered with the first of the features that match it: features whose rectangle touches
the bound of its predicate, on either side of the antimeridian, and that satisfy the predicate. A
feature that touches both sides is found once, and two features that are equal are both found.

* `Plan.Selects`: some of the matching features are selected, with none before them left out.
* `Plan.selects_answer`: what a plan is answered with is such a selection.
* `MapData.Measures`: the stops of a plan, with their distances from the origin it is ordered by.
* `Plan.execute_selects`: the main statement.
-/

namespace Whereabouts

namespace Plan

variable {α τ : Type} [Scalar α] [Feature α τ] {plan : Plan α} {bound : Envelope α}
  {matched features found left : List τ}

/-- The plan that wants everything. -/
def unlimited (plan : Plan α) : Plan α := { plan with limit := none }

/-- The features that match a plan within a bound, in the order in which they were given. -/
def matching (plan : Plan α) (bound : Envelope α) (features : List τ) : List τ :=
  features.filter fun f => FeatureIndex.near bound f && plan.predicate.test f

/-- Of the matching features those that are found are selected from the others. -/
structure Selects (plan : Plan α) (matched found left : List τ) : Prop where
  /-- Every matching feature is found or left out, as often as it matches, and nothing else is. -/
  perm : (found ++ left).Perm matched
  length_eq : found.length = plan.limit.elim matched.length (min · matched.length)
  sorted : plan.order ≠ .unordered →
    found.Pairwise fun f g => Scalar.rankLe (plan.key f) (plan.key g) = true
  /-- What is left out comes before nothing that is found. -/
  least : ∀ f ∈ found, ∀ g ∈ left, Scalar.rankLe (plan.key f) (plan.key g) = true

/-- What a limit cuts off. -/
def rest (plan : Plan α) (features : List τ) : List τ :=
  match plan.limit with
  | some n => features.drop n
  | none => []

omit [Scalar α] [Feature α τ] in
/-- What is cut off comes after what is kept. -/
lemma cut_append_rest (plan : Plan α) (features : List τ) :
    plan.cut features ++ plan.rest features = features := by
  unfold cut rest
  cases plan.limit with
  | some n => exact List.take_append_drop n features
  | none => exact List.append_nil features

omit [Scalar α] [Feature α τ] in
/-- As many features are kept as the limit says, or all of them. -/
lemma length_cut (plan : Plan α) (features : List τ) :
    (plan.cut features).length = plan.limit.elim features.length (min · features.length) := by
  unfold cut
  cases plan.limit with
  | some n => exact List.length_take
  | none => rfl

/-- Without an order all features have the same key. -/
lemma key_of_unordered (unordered : plan.order = .unordered) (feature : τ) :
    plan.key feature = 0.0 := by
  unfold key
  rw [unordered]

/-- A limit takes the first of what there is without a limit. -/
lemma answer_eq_cut (plan : Plan α) (index : FeatureIndex α τ) :
    plan.answer index = plan.cut (plan.unlimited.answer index) := rfl

variable [Std.TransCmp (Scalar.rank (α := α))]

/-- Cutting off the end of what is arranged selects from it. -/
lemma selects_cut (perm : features.Perm matched)
    (sorted : plan.order ≠ .unordered →
      features.Pairwise fun f g => Scalar.rankLe (plan.key f) (plan.key g) = true) :
    plan.Selects matched (plan.cut features) (plan.rest features) where
  perm := by rwa [cut_append_rest]
  length_eq := by rw [length_cut, perm.length_eq]
  sorted ordered := by
    have pairs := sorted ordered
    rw [← cut_append_rest plan features, List.pairwise_append] at pairs
    exact pairs.1
  least f hf g hg := by
    by_cases ordered : plan.order = .unordered
    · rw [key_of_unordered ordered, key_of_unordered ordered]
      simpa using Scalar.rankLe_total (0.0 : α) 0.0
    · have pairs := sorted ordered
      rw [← cut_append_rest plan features, List.pairwise_append] at pairs
      exact pairs.2.2 f hf g hg

/-- A plan is answered with a selection from the features that match it. -/
lemma selects_answer (bounded : plan.predicate.bound? = some bound) (features : List τ) :
    plan.Selects (plan.matching bound features) (plan.answer (.ofList features))
      (plan.rest (plan.unlimited.answer (.ofList features))) := by
  have whole : plan.unlimited.limit = none := rfl
  rw [answer_eq_cut]
  apply selects_cut
  · exact answer_perm whole bounded features
  · intro ordered
    have same : plan.unlimited.order ≠ .unordered := ordered
    exact answer_sorted same _

end Plan

namespace MapData

variable {α : Type} [Scalar α] {data : MapData α} {plan : Plan α} {hits : List (StopHit α)}

/-- The stops of a plan are reported: those the plan is answered with, and where these are ordered
by distance, with the distances from the origin, none less than the one before. -/
structure Measures (data : MapData α) (plan : Plan α) (hits : List (StopHit α)) : Prop where
  execute_eq : plan.execute .stops data.stops = .ok (hits.map (·.stop))
  distance_eq : ∀ origin, plan.order = .nearestTo origin →
    ∀ hit ∈ hits, hit.distance = origin.distance hit.stop.location
  sorted : ∀ origin, plan.order = .nearestTo origin →
    hits.Pairwise fun a b => Scalar.rankLe a.distance b.distance = true

/-- A stop that was found near a place has its distance from there. -/
lemma hit_distance {origin : Point α} (near : plan.order = .nearestTo origin) (stop : Stop α) :
    (hit plan stop).distance = origin.distance stop.location := by
  unfold hit Plan.origin?
  rw [near]
  rfl

/-- The key of a stop near a place is its distance from there. -/
lemma key_of_nearestTo {origin : Point α} (near : plan.order = .nearestTo origin) (stop : Stop α) :
    plan.key stop = origin.distance stop.location := by
  unfold Plan.key
  rw [near]
  rfl

variable [Std.TransCmp (Scalar.rank (α := α))]

/-- The stops that a plan is answered with are measured from its origin. -/
lemma measures_answer (ex : plan.Executable .stops) (data : MapData α) :
    data.Measures plan ((plan.answer data.stops).map (hit plan)) where
  execute_eq := by
    rw [ex.execute, List.map_map]
    exact congrArg Except.ok (List.map_id _).symm
  distance_eq origin near hit mem := by
    obtain ⟨stop, -, rfl⟩ := List.mem_map.1 mem
    exact hit_distance near stop
  sorted origin near := by
    have ordered : plan.order ≠ .unordered := by
      rw [near]
      exact nofun
    rw [List.pairwise_map]
    refine (Plan.answer_sorted ordered data.stops).imp fun {stop other} le => ?_
    rwa [hit_distance near, hit_distance near, ← key_of_nearestTo near, ← key_of_nearestTo near]

/-- The stops of several plans are reported list by list. -/
lemma queryStops_measures {plans : List (Plan α)} (ex : ∀ plan ∈ plans, plan.Executable .stops)
    (data : MapData α) :
    ∃ slots, data.queryStops plans = .ok slots ∧ List.Forall₂ data.Measures plans slots := by
  refine ⟨_, queryStops_eq ex, ?_⟩
  rw [List.forall₂_map_right_iff, List.forall₂_same]
  exact fun plan mem => measures_answer (ex plan mem) data

end MapData

/-- **A plan selects the first of the features that match it.** Take any features and any plan for
their layer with a bound. It is answered with features whose upright rectangle touches a part of the
bound and that satisfy the predicate, each as often as it was given, so once however many parts it
touches; with all of them, or as many as the limit allows; in ascending order of the key, where
there is an order; and with none left out whose key is less than that of one that is found. It is
the beginning of the answer without a limit. The stops of several plans that are ordered by distance
are reported with their distances from the origin, which ascend. -/
theorem Plan.execute_selects {α τ : Type} [Scalar α] [Feature α τ]
    [Std.TransCmp (Scalar.rank (α := α))] (features : List τ) :
    (∀ (plan : Plan α) (bound : Envelope α), plan.predicate.bound? = some bound →
      ∃ all found left,
        plan.unlimited.execute plan.layer (.ofList features) = .ok all ∧
        plan.execute plan.layer (.ofList features) = .ok found ∧
        all = found ++ left ∧
        plan.unlimited.Selects (plan.matching bound features) all [] ∧
        plan.Selects (plan.matching bound features) found left) ∧
    (∀ (data : MapData α) (plans : List (Plan α)), (∀ plan ∈ plans, plan.Executable .stops) →
      ∃ slots, data.queryStops plans = .ok slots ∧ List.Forall₂ data.Measures plans slots) := by
  refine ⟨fun plan bound bounded => ?_, fun data plans ex => MapData.queryStops_measures ex data⟩
  have ex : plan.Executable plan.layer := ⟨rfl, by rw [bounded]; rfl⟩
  have all : plan.unlimited.Executable plan.layer := ⟨rfl, ex.bounded⟩
  refine ⟨_, _, _, all.execute _, ex.execute _, ?_, ?_, selects_answer bounded features⟩
  · exact (cut_append_rest plan (plan.unlimited.answer _)).symm
  · have same : plan.unlimited.predicate.bound? = some bound := bounded
    exact selects_answer same features

section Sample

/-- A ferry over the antimeridian; the rectangle around its ends reaches round the earth. -/
noncomputable def antimeridianFerry : LineFeature ℝ :=
  ⟨⟨"relation/1", none, "Ferry", none, .ferry⟩, [[⟨0, 179⟩, ⟨0, -179⟩]]⟩

/-- A plan for one line between 170 degrees east and 170 degrees west. -/
noncomputable def acrossPlan : Plan ℝ :=
  ⟨.lines, .touches ⟨170, -1, 190, 1⟩, .smallestFirst, some 1⟩

/-- The envelope of the ferry goes round the earth the long way. -/
lemma antimeridianFerry_envelope :
    Feature.envelope? (α := ℝ) antimeridianFerry = some ⟨-179, 0, 179, 0⟩ := by
  show some (Envelope.extend _ _) = _
  norm_num [Envelope.extend, Envelope.ofPoint]

/-- A square across the antimeridian is cut in two there. -/
lemma parts_across : (⟨170, -1, 190, 1⟩ : Envelope ℝ).parts =
    [⟨170, -1, 180, 1⟩, ⟨-180, -1, -170, 1⟩] := by
  norm_num [Envelope.parts]

/-- The ferry touches both sides of the antimeridian. -/
lemma antimeridianFerry_touches : ∀ part ∈ (⟨170, -1, 190, 1⟩ : Envelope ℝ).parts,
    (⟨-179, 0, 179, 0⟩ : Envelope ℝ).upright.intersects part.upright = true := by
  rw [parts_across]
  rintro part (_ | ⟨_, _ | ⟨_, ⟨⟩⟩⟩) <;>
    norm_num [Envelope.intersects, Envelope.upright, Envelope.lowerOf, Envelope.upperOf]

/-- The ferry matches as often as it was given. -/
lemma matching_ferries :
    acrossPlan.matching ⟨170, -1, 190, 1⟩ [antimeridianFerry, antimeridianFerry] =
      [antimeridianFerry, antimeridianFerry] := by
  refine List.filter_eq_self.2 fun f hf => Bool.and_eq_true_iff.2 ?_
  obtain rfl : f = antimeridianFerry := by simpa using hf
  constructor
  · unfold FeatureIndex.near
    rw [antimeridianFerry_envelope, Option.any_some, List.any_eq_true, parts_across]
    exact ⟨_, List.mem_cons_self, antimeridianFerry_touches _ (by rw [parts_across]; simp)⟩
  · show (Feature.envelope? antimeridianFerry).any (·.intersects ⟨170, -1, 190, 1⟩) = true
    rw [antimeridianFerry_envelope, Option.any_some]
    norm_num [Envelope.intersects]

/-- Of two equal ferries, each of which touches both sides of the antimeridian, both are found, and
one where one is wanted; and the stops near a place are reported. -/
theorem Plan.equal_ferries_selected :
    (∃ all found, acrossPlan.unlimited.execute .lines
        (.ofList [antimeridianFerry, antimeridianFerry]) = .ok all ∧
      acrossPlan.execute .lines (.ofList [antimeridianFerry, antimeridianFerry]) = .ok found ∧
      all.Perm [antimeridianFerry, antimeridianFerry] ∧ found = [antimeridianFerry]) ∧
    ∃ slots, (MapData.ofFeatures [] [] [antimeridianFerry]).queryStops
        [Plan.nearestStops ⟨0, 179⟩ 1000 none []] = .ok slots ∧
      List.Forall₂ (MapData.ofFeatures [] [] [antimeridianFerry]).Measures
        [Plan.nearestStops ⟨0, 179⟩ 1000 none []] slots := by
  obtain ⟨planned, reported⟩ := Plan.execute_selects [antimeridianFerry, antimeridianFerry]
  constructor
  · obtain ⟨all, found, left, whole, cut, rfl, both, one⟩ :=
      planned acrossPlan ⟨170, -1, 190, 1⟩ rfl
    rw [matching_ferries] at both one
    have length : found.length = 1 := one.length_eq
    obtain ⟨f, rfl⟩ := List.length_eq_one_iff.1 length
    obtain rfl : f = antimeridianFerry := by
      simpa using one.perm.mem_iff.1 (List.mem_append_left _ List.mem_cons_self)
    exact ⟨_, _, whole, cut, by simpa using both.perm, rfl⟩
  · apply reported
    rintro plan (_ | ⟨_, ⟨⟩⟩)
    exact Plan.executable_within .stops _ _ _ _ _

end Sample

end Whereabouts
