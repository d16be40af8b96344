import Whereabouts.Proofs.Geometry.Sphere
import Whereabouts.Proofs.Store.Index

/-!
# Searching within a radius

A search looks at the stops that lie in a rectangle around the point and gives those of them that
are within the radius, the nearest first. The rectangle does not hold the whole disc: a degree of
latitude has fewer metres than it is reckoned with, and the disc is widest in longitude nearer to
the pole than its centre. What the rectangle holds is a disc of three tenths of the radius,
everywhere on the sphere.

* `MapData.stopsOf_lists`: the stops within the radius and within the rectangle are found.
* `StopHit.Lists.iff_of_imp`: when these are all stops within the radius.
* `Gateway.nearestStops_found`: what a search finds, and what it cannot miss.
* `Gateway.northern_stop_missed`: a stop within the radius that is not found.
-/

namespace Whereabouts

open LawfulScalar Real

/-- A stop of the modes asked for, any mode without modes, within a radius. -/
structure Stop.Within {α : Type} [Scalar α] (point : Point α) (radius : α) (modes : List Mode)
    (s : Stop α) : Prop where
  listed : modes = [] ∨ s.mode ∈ modes
  near : point.distance s.location ≤ radius

/-- The hits are the stops of a kind, each once and with its distance, the nearest first. -/
structure StopHit.Lists {α : Type} [Scalar α] (stops : List (Stop α)) (point : Point α)
    (kind : Stop α → Prop) (hits : List (StopHit α)) : Prop where
  nodup : (hits.map (·.stop.id)).Nodup
  mem_iff : ∀ hit, hit ∈ hits ↔
    (hit.stop ∈ stops ∧ kind hit.stop) ∧ hit.distance = point.distance hit.stop.location
  ascending : hits.Pairwise fun a b => Scalar.rankLe a.distance b.distance = true

section Search

variable {α : Type} [Scalar α] {point : Point α} {radius : α} {modes : List Mode} {s : Stop α}

/-- A stop touches an envelope that covers it. -/
lemma near_stop (valid : s.location.isValid = true) (bound : Envelope α) :
    FeatureIndex.near bound s = bound.covers s.location := by
  have own : Feature.envelope? (α := α) s = some (Envelope.ofPoint s.location) := if_pos valid
  unfold FeatureIndex.near Envelope.covers
  rw [own, Option.any_some, Envelope.upright_ofPoint]
  simp only [Envelope.ofPoint_intersects]

/-- A stop satisfies a plan for the stops near a point where it is within the radius, in one of the
modes. -/
lemma test_nearestStops (limit : Option Nat) :
    (Plan.nearestStops point radius limit modes).predicate.test s = true ↔
      s.Within point radius modes := by
  have listed : (modes.isEmpty || modes.contains s.mode) = true ↔ modes = [] ∨ s.mode ∈ modes := by
    rw [Bool.or_eq_true, List.isEmpty_iff, List.contains_iff_mem]
  unfold Plan.nearestStops
  rw [Plan.test_within, Bool.and_eq_true, decide_eq_true_iff]
  constructor
  · rintro ⟨near, mode⟩
    exact ⟨listed.1 mode, near⟩
  · rintro ⟨mode, near⟩
    exact ⟨near, listed.2 mode⟩

variable {stops : List (Stop α)}

/-- The answer to a search without a limit, each stop once. -/
lemma answer_nearestStops (valid : ∀ s ∈ stops, s.location.isValid = true) :
    ((Plan.nearestStops point radius none modes).answer (.ofList stops)).Perm
      (stops.filter fun s => (Envelope.aroundMetres point radius).covers s.location &&
        (Plan.nearestStops point radius none modes).predicate.test s) := by
  refine (Plan.answer_perm rfl (Plan.bound_within ..) stops).trans (List.Perm.of_eq ?_)
  apply List.filter_congr
  intro s hs
  rw [near_stop (valid s hs)]
  rfl

variable [Std.TransCmp (Scalar.rank (α := α))]

/-- The stops within the radius and within the rectangle are found. -/
lemma MapData.stopsOf_lists [Measured α] (valid : ∀ s ∈ stops, s.location.isValid = true)
    (nodup : (stops.map (·.id)).Nodup) (boundaries : List (Boundary α))
    (lines : List (LineFeature α)) :
    StopHit.Lists stops point (fun s => s.Within point radius modes ∧
        (Envelope.aroundMetres point radius).covers s.location = true)
      ((MapData.ofFeatures boundaries stops lines).stopsOf ⟨point, radius, none, modes⟩) := by
  have perm : ((Plan.nearestStops point radius none modes).answer (.ofList stops)).Perm _ :=
    answer_nearestStops valid
  have e : (MapData.ofFeatures boundaries stops lines).stopsOf ⟨point, radius, none, modes⟩ =
      ((Plan.nearestStops point radius none modes).answer (.ofList stops)).map fun s =>
        ⟨s, point.distance s.location⟩ := rfl
  rw [e]
  constructor
  · rw [List.map_map]
    have ids := perm.map (·.id)
    exact ids.nodup_iff.2 (nodup.sublist (List.filter_sublist.map _))
  · intro hit
    rw [List.mem_map]
    constructor
    · rintro ⟨s, mem, rfl⟩
      rw [perm.mem_iff, List.mem_filter, Bool.and_eq_true, test_nearestStops] at mem
      exact ⟨⟨mem.1, mem.2.2, mem.2.1⟩, rfl⟩
    · rintro ⟨⟨mem, within, covers⟩, distance_eq⟩
      refine ⟨hit.stop, ?_, congrArg (StopHit.mk _) distance_eq.symm⟩
      rw [perm.mem_iff, List.mem_filter, Bool.and_eq_true, test_nearestStops]
      exact ⟨mem, covers, within⟩
  · rw [List.pairwise_map]
    have ordered : (Plan.nearestStops point radius none modes).order ≠ .unordered := nofun
    exact Plan.answer_sorted (τ := Stop α) ordered _

omit [Std.TransCmp (Scalar.rank (α := α))] in
/-- The answer lists all stops of a kind if those of another kind that it lists are the same. -/
lemma StopHit.Lists.iff_of_imp {kind narrower : Stop α → Prop} {hits : List (StopHit α)}
    (lists : StopHit.Lists stops point (fun s => kind s ∧ narrower s) hits) :
    StopHit.Lists stops point kind hits ↔ ∀ s ∈ stops, kind s → narrower s := by
  constructor
  · intro all s hs holds
    have mem := (all.mem_iff ⟨s, point.distance s.location⟩).2 ⟨⟨hs, holds⟩, rfl⟩
    exact ((lists.mem_iff _).1 mem).1.2.2
  · intro imp
    refine ⟨lists.nodup, fun hit => ?_, lists.ascending⟩
    rw [lists.mem_iff]
    constructor
    · rintro ⟨⟨hs, holds, -⟩, e⟩
      exact ⟨⟨hs, holds⟩, e⟩
    · rintro ⟨⟨hs, holds⟩, e⟩
      exact ⟨⟨hs, holds, imp _ hs holds⟩, e⟩

end Search

/-- A search is answered. -/
lemma MapData.nearestStops_eq {α : Type} [Scalar α] [Measured α] (data : MapData α)
    (point : Point α) (radius : α) (limit : Option Nat) (modes : List Mode) :
    (data.gateway Id).nearestStops point radius limit modes =
      pure (data.stopsOf ⟨point, radius, limit, modes⟩) := by
  unfold Gateway.nearestStops
  rw [data.each_stops]
  rfl

/-- **What a search finds.** Of the stops within the radius those in the rectangle around the point
are found, each once, the nearest first; that is all of them just when none lies outside the
rectangle, and none of the stops within three tenths of the radius does. -/
theorem Gateway.nearestStops_found {stops : List (Stop ℝ)}
    (stops_valid : ∀ s ∈ stops, s.location.isValid = true) (nodup : (stops.map (·.id)).Nodup)
    {point : Point ℝ} (valid : point.isValid = true) {radius : ℝ} (pos : 0 < radius)
    (modes : List Mode) (boundaries : List (Boundary ℝ)) (lines : List (LineFeature ℝ)) :
    ∃ hits, ((MapData.ofFeatures boundaries stops lines).gateway Id).nearestStops point radius none
        modes = pure hits ∧
      StopHit.Lists stops point (fun s => s.Within point radius modes ∧
        (Envelope.aroundMetres point radius).covers s.location = true) hits ∧
      (StopHit.Lists stops point (Stop.Within point radius modes) hits ↔
        ∀ s ∈ stops, s.Within point radius modes →
          (Envelope.aroundMetres point radius).covers s.location = true) ∧
      ∀ s ∈ stops, s.Within point (3 / 10 * radius) modes →
        ⟨s, point.distance s.location⟩ ∈ hits := by
  have lists : StopHit.Lists stops point (fun s => s.Within point radius modes ∧
      (Envelope.aroundMetres point radius).covers s.location = true) _ :=
    MapData.stopsOf_lists stops_valid nodup boundaries lines
  refine ⟨_, MapData.nearestStops_eq _ point radius none modes, lists, lists.iff_of_imp, ?_⟩
  intro s hs inner
  have within : s.Within point radius modes := ⟨inner.listed, inner.near.trans (by linarith)⟩
  have covers := Envelope.covers_aroundMetres valid (stops_valid s hs) pos inner.near
  exact (lists.mem_iff _).2 ⟨⟨hs, within, covers⟩, rfl⟩

section Sample

/-- A stop on the first meridian, about a kilometre north of the equator. -/
noncomputable def northernStop : Stop ℝ :=
  .ofNames "node/1" ⟨[("default", "North")], List.pairwise_singleton _ _⟩ .metro ⟨0.00899, 0⟩

/-- The stop to the north is at a valid place. -/
lemma northernStop_valid : northernStop.location.isValid = true :=
  Point.isValid_real.2 (by norm_num [northernStop, Stop.ofNames])

/-- The stops are at valid places. -/
lemma northernStops_valid : ∀ s ∈ [northernStop], s.location.isValid = true := fun _ hs =>
  List.mem_singleton.1 hs ▸ northernStop_valid

/-- The origin is a valid place. -/
lemma origin_valid : (⟨0, 0⟩ : Point ℝ).isValid = true := Point.isValid_real.2 (by norm_num)

/-- The stop to the north is within a thousand metres. -/
lemma northernStop_distance : (⟨0, 0⟩ : Point ℝ).distance northernStop.location ≤ 1000 := by
  rw [Point.distance_of_lon_eq origin_valid northernStop_valid rfl]
  have gap : |northernStop.location.lat - 0| = 0.00899 := by
    norm_num [northernStop, Stop.ofNames]
  dsimp only
  rw [gap]
  linarith [pi_lt_d4]

/-- A stop is found from a point at a fifth of the radius. -/
theorem Gateway.northern_stop_found :
    ∃ hits, ((MapData.ofFeatures [] [northernStop] []).gateway Id).nearestStops ⟨0, 0⟩ 5000 none [] =
        pure hits ∧
      (⟨northernStop, (⟨0, 0⟩ : Point ℝ).distance northernStop.location⟩ : StopHit ℝ) ∈ hits := by
  obtain ⟨hits, answer, -, -, inner⟩ := Gateway.nearestStops_found northernStops_valid
    (List.nodup_singleton _) origin_valid (show (0 : ℝ) < 5000 by norm_num) [] [] []
  refine ⟨hits, answer, inner northernStop List.mem_cons_self ⟨.inl rfl, ?_⟩⟩
  exact northernStop_distance.trans (by norm_num)

/-- A stop within the radius is not found where it is north of the rectangle. -/
theorem Gateway.northern_stop_missed :
    northernStop.Within (⟨0, 0⟩ : Point ℝ) 1000 [] ∧
      ((MapData.ofFeatures [] [northernStop] []).gateway Id).nearestStops ⟨0, 0⟩ 1000 none [] =
        pure [] := by
  refine ⟨⟨.inl rfl, northernStop_distance⟩, ?_⟩
  have lists : StopHit.Lists [northernStop] ⟨0, 0⟩ (fun s => s.Within ⟨0, 0⟩ 1000 [] ∧
      (Envelope.aroundMetres ⟨0, 0⟩ 1000).covers s.location = true) _ :=
    MapData.stopsOf_lists northernStops_valid (List.nodup_singleton _) [] []
  rw [MapData.nearestStops_eq]
  apply congrArg
  rw [List.eq_nil_iff_forall_not_mem]
  intro hit mem
  obtain ⟨⟨hs, -, covers⟩, -⟩ := (lists.mem_iff hit).1 mem
  obtain e := List.mem_singleton.1 hs
  have top : (Envelope.aroundMetres (⟨0, 0⟩ : Point ℝ) 1000).maxLat = 0 + 1000 / 111320 := by
    rw [← Envelope.metresPerDegree_real]
    rfl
  have bottom : (Envelope.aroundMetres (⟨0, 0⟩ : Point ℝ) 1000).minLat = 0 - 1000 / 111320 := by
    rw [← Envelope.metresPerDegree_real]
    rfl
  have north := Envelope.lat_le_of_covers (by rw [top, bottom]; norm_num) covers
  rw [e, top] at north
  norm_num [northernStop, Stop.ofNames] at north

end Sample

end Whereabouts
