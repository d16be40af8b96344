import Mathlib.Analysis.Convex.Basic
import Whereabouts.Proofs.Geometry.Extended
import Whereabouts.Proofs.Geometry.Rectangles
import Whereabouts.Proofs.Geometry.Sphere

/-!
# Distances to tracks

The distance from a point to a piece of a track is measured on a plane around the point, where the
ends of the piece stand on the side to which the way round the earth is shorter. As long as the
meridian opposite to the point does not come between the two ends, the piece on the plane is the
piece of the map, so that its nearest place lies in every rectangle around the track, and within
reach of the point.

* `LineFeature.Unbroken`: the pieces of a track on the plane are those of the map.
* `LineFeature.exists_foot`: the distance is that of a place on the piece.
* `LineFeature.covers_place`: the rectangle around the point covers a place on the piece.
* `LineFeature.near_of_piece`: an index looks at the line.
-/

namespace Whereabouts

open Real

namespace LineFeature

section Pieces

variable {α : Type} [Scalar α]

/-- How many degrees a place is east of the origin, the shorter way round. -/
def eastward (origin p : Point α) : α :=
  Scalar.remainder (p.lon - origin.lon + 540.0) 360.0 - 180.0

/-- The ends of a piece are as far apart on the way to the origin as on the map. -/
def Joined (origin : Point α) (piece : Point α × Point α) : Prop :=
  eastward origin piece.2 - eastward origin piece.1 = piece.2.lon - piece.1.lon

/-- The meridian opposite to the origin parts no piece of the track. -/
def Unbroken (origin : Point α) (f : LineFeature α) : Prop :=
  ∀ part ∈ f.track, ∀ piece ∈ Ring.segments part, Joined origin piece

end Pieces

variable {p q a b : Point ℝ}

/-- How far a point lies to the east, up to whole turns. -/
lemma eastward_real (p q : Point ℝ) : ∃ k : ℤ, eastward p q = q.lon - p.lon + 360 * k := by
  refine ⟨1 - ⌊(q.lon - p.lon + 540.0) / 360.0⌋, ?_⟩
  show q.lon - p.lon + 540.0 - 360.0 * ⌊(q.lon - p.lon + 540.0) / 360.0⌋ - 180.0 = _
  push_cast
  norm_num
  ring

/-- A point is projected to the plane around another one, in metres. -/
lemma project_real (p q : Point ℝ) : project p q =
    (eastward p q * 111320 * cos (p.lat * (π / 180)), (q.lat - p.lat) * 111320) := by
  rw [← Point.radians_real, ← Envelope.metresPerDegree_real]
  rfl

/-- No way round the earth between two longitudes is shorter than their gap. -/
lemma lonGap_le_abs (a b : ℝ) (k : ℤ) : lonGap a b ≤ |b - a + 360 * k| := by
  rcases lt_trichotomy k 0 with neg | rfl | pos
  · have le : (k : ℝ) ≤ -1 := by exact_mod_cast Int.le_sub_one_of_lt neg
    apply (min_le_right _ _).trans
    have back := neg_abs_le (b - a + 360 * k)
    have gap := le_abs_self (b - a)
    linarith
  · rw [Int.cast_zero, mul_zero, add_zero]
    exact min_le_left _ _
  · have le : (1 : ℝ) ≤ k := by exact_mod_cast pos
    apply (min_le_right _ _).trans
    have forth := le_abs_self (b - a + 360 * k)
    have gap := neg_abs_le (b - a)
    linarith

/-- The place that a part of the way from one place to another leads to. -/
def along (a b : Point ℝ) (u : ℝ) : Point ℝ :=
  ⟨a.lat + u • (b.lat - a.lat), a.lon + u • (b.lon - a.lon)⟩

section Along

variable {u : ℝ} (part : u ∈ Set.Icc (0 : ℝ) 1)

include part

/-- A rectangle that holds the ends of a piece holds the piece. -/
lemma contains_along {e : Envelope ℝ} (ha : e.contains a = true) (hb : e.contains b = true) :
    e.contains (along a b u) = true := by
  obtain ⟨a_lon, a_lat⟩ := Envelope.contains_iff.1 ha
  obtain ⟨b_lon, b_lat⟩ := Envelope.contains_iff.1 hb
  exact Envelope.contains_iff.2
    ⟨(convex_Icc e.minLon e.maxLon).add_smul_sub_mem a_lon b_lon part,
      (convex_Icc e.minLat e.maxLat).add_smul_sub_mem a_lat b_lat part⟩

/-- Between valid points all points are valid. -/
lemma valid_along (ha : a.isValid = true) (hb : b.isValid = true) :
    (along a b u).isValid = true := by
  obtain ⟨a_lat, a_lon⟩ := Point.isValid_real.1 ha
  obtain ⟨b_lat, b_lon⟩ := Point.isValid_real.1 hb
  exact Point.isValid_real.2 ⟨(convex_Icc _ _).add_smul_sub_mem a_lat b_lat part,
    (convex_Icc _ _).add_smul_sub_mem a_lon b_lon part⟩

/-- Between points off the antimeridian all points are off it. -/
lemma inner_along (ha : a.lon ∈ Set.Ioo (-180) 180) (hb : b.lon ∈ Set.Ioo (-180) 180) :
    (along a b u).lon ∈ Set.Ioo (-180) 180 :=
  (convex_Ioo _ _).add_smul_sub_mem ha hb part

end Along

/-- The distance is measured from a place of the plane to the centre. -/
lemma squaredNorm_back (x y : ℝ) : squaredNorm (0.0 - x, 0.0 - y) = x ^ 2 + y ^ 2 := by
  show (0.0 - x) * (0.0 - x) + (0.0 - y) * (0.0 - y) = _
  norm_num
  ring

/-- The distance to a piece of the plane is that of a place on it. -/
lemma exists_foot (a b : ℝ × ℝ) : ∃ u ∈ Set.Icc (0 : ℝ) 1,
    squaredDistance a b = (a.1 + u * (b.1 - a.1)) ^ 2 + (a.2 + u * (b.2 - a.2)) ^ 2 := by
  unfold squaredDistance
  dsimp only
  split
  next inside =>
    rw [Bool.and_eq_true, decide_eq_true_eq, decide_eq_true_eq] at inside
    norm_num at inside
    refine ⟨_, ⟨inside.1.le, inside.2.le⟩, ?_⟩
    rw [squaredNorm_back]
    norm_num
    ring
  next =>
    -- the nearest place is one of the ends
    split
    · exact ⟨0, ⟨le_refl _, zero_le_one⟩, by rw [squaredNorm_back]; ring⟩
    · exact ⟨1, ⟨zero_le_one, le_refl _⟩, by rw [squaredNorm_back]; ring⟩

/-- A place on a piece is no farther from a point than the piece, in latitude and in longitude along
the parallel of the point. -/
lemma exists_place (hp : p.isValid = true) (joined : Joined p (a, b)) :
    ∃ u ∈ Set.Icc (0 : ℝ) 1,
      |(along a b u).lat - p.lat| * 111320 ≤ pieceDistance p (a, b) ∧
      lonGap p.lon (along a b u).lon * (111320 * cos (p.lat * (π / 180))) ≤
        pieceDistance p (a, b) := by
  obtain ⟨u, part, foot⟩ := exists_foot (project p a) (project p b)
  refine ⟨u, part, ?_⟩
  set q := along a b u with q_eq
  obtain ⟨k, way⟩ := eastward_real p a
  set c := cos (p.lat * (π / 180)) with c_eq
  have c_nonneg : 0 ≤ c := Point.cos_lat_nonneg hp
  have scale : (0 : ℝ) < 111320 := by norm_num
  -- the foot on the plane is that on the map, some turns round the earth away
  have place : squaredDistance (project p a) (project p b) =
      ((q.lon - p.lon + 360 * k) * 111320 * c) ^ 2 + ((q.lat - p.lat) * 111320) ^ 2 := by
    have east : eastward p b = eastward p a + (b.lon - a.lon) := by
      have apart : eastward p b - eastward p a = b.lon - a.lon := joined
      linarith
    rw [foot, project_real, project_real, east, way]
    simp only [q_eq, along, smul_eq_mul, ← c_eq]
    ring
  have distance : pieceDistance p (a, b) =
      √(((q.lon - p.lon + 360 * k) * 111320 * c) ^ 2 + ((q.lat - p.lat) * 111320) ^ 2) := by
    rw [← place]
    rfl
  rw [distance]
  constructor
  · rw [← abs_of_pos scale, ← abs_mul, abs_of_pos scale]
    exact abs_le_sqrt (le_add_of_nonneg_left (sq_nonneg _))
  · calc lonGap p.lon q.lon * (111320 * c)
        ≤ |q.lon - p.lon + 360 * k| * (111320 * c) := by
          gcongr
          exact lonGap_le_abs _ _ k
      _ = |(q.lon - p.lon + 360 * k) * 111320 * c| := by
          rw [abs_mul, abs_mul, abs_of_nonneg c_nonneg, abs_of_pos scale]
          ring
      _ ≤ _ := abs_le_sqrt (le_add_of_nonneg_right (sq_nonneg _))

/-- The rectangle around a point covers a place of every piece within reach. -/
lemma covers_place (hp : p.isValid = true) (ha : a.isValid = true) (hb : b.isValid = true)
    (joined : Joined p (a, b)) {threshold : ℝ} (reach : pieceDistance p (a, b) < threshold ∨
      pieceDistance p (a, b) ≤ threshold ∧ a.lon ∈ Set.Ioo (-180) 180 ∧
        b.lon ∈ Set.Ioo (-180) 180) :
    ∃ u ∈ Set.Icc (0 : ℝ) 1, (Envelope.aroundMetres p threshold).covers (along a b u) = true := by
  obtain ⟨u, part, lats, lons⟩ := exists_place hp joined
  refine ⟨u, part, ?_⟩
  rw [Envelope.aroundMetres_real]
  apply Envelope.covers_reaching hp (valid_along part ha hb)
  · rw [le_div_iff₀ (by norm_num)]
    exact lats.trans (reach.elim le_of_lt And.left)
  apply (Envelope.lonReach_cases p.lat threshold).imp_right
  rintro ⟨short, c_pos, e⟩
  refine ⟨short, ?_⟩
  have scale : 0 < 111320 * cos (p.lat * (π / 180)) := by positivity
  rw [e, lt_div_iff₀ scale, le_div_iff₀ scale]
  rcases reach with lt | ⟨le, a_inner, b_inner⟩
  · exact .inl (lons.trans_lt lt)
  · exact .inr ⟨lons.trans le, inner_along part a_inner b_inner⟩

/-- A single place is a piece without length. -/
lemma pieceDistance_self (p q : Point ℝ) :
    pieceDistance p (q, q) = Scalar.sqrt (squaredNorm (project p q)) := by
  obtain ⟨u, -, foot⟩ := exists_foot (project p q) (project p q)
  unfold pieceDistance squaredNorm
  rw [foot]
  apply congrArg
  ring

/-- The distances to the pieces of a part are those to pieces between its places. -/
lemma exists_piece {places : List (Point ℝ)} {d : ℝ} (mem : d ∈ partDistances p places) :
    ∃ a ∈ places, ∃ b ∈ places, d = pieceDistance p (a, b) ∧
      ((∀ piece ∈ Ring.segments places, Joined p piece) → Joined p (a, b)) := by
  rcases places with _ | ⟨a, _ | ⟨b, rest⟩⟩
  · cases mem
  · refine ⟨a, List.mem_cons_self, a, List.mem_cons_self, ?_, fun _ => ?_⟩
    · rw [pieceDistance_self]
      exact List.mem_singleton.1 mem
    · exact (sub_self _).trans (sub_self _).symm
  · rw [partDistances_eq_map] at mem
    obtain ⟨⟨x, y⟩, there, rfl⟩ := List.mem_map.1 mem
    have ends := List.of_mem_zip there
    exact ⟨x, ends.1, y, List.mem_of_mem_tail ends.2, rfl, fun joined => joined _ there⟩

/-- An index looks at a line one of whose pieces is within reach. -/
lemma near_of_piece {f : LineFeature ℝ} (hp : p.isValid = true)
    (places_valid : ∀ v ∈ f.track.flatten, v.isValid = true) (unbroken : f.Unbroken p)
    {places : List (Point ℝ)} (part : places ∈ f.track) {d : ℝ} (mem : d ∈ partDistances p places)
    {threshold : ℝ} (reach : d < threshold ∨
      d ≤ threshold ∧ ∀ v ∈ f.track.flatten, v.lon ∈ Set.Ioo (-180) 180) :
    FeatureIndex.near (Envelope.aroundMetres p threshold) f = true := by
  obtain ⟨a, ha, b, hb, rfl, joined⟩ := exists_piece mem
  have a_mem : a ∈ f.track.flatten := List.mem_flatten.2 ⟨places, part, ha⟩
  have b_mem : b ∈ f.track.flatten := List.mem_flatten.2 ⟨places, part, hb⟩
  obtain ⟨u, hu, covers⟩ := covers_place hp (places_valid a a_mem) (places_valid b b_mem)
    (joined (unbroken places part)) (reach.imp_right fun ⟨le, inner⟩ =>
      ⟨le, inner a a_mem, inner b b_mem⟩)
  obtain ⟨own, eq⟩ : ∃ own, f.envelope? = some own := by
    unfold envelope?
    cases h : f.track.flatten with
    | nil =>
      rw [h] at a_mem
      cases a_mem
    | cons => exact ⟨_, rfl⟩
  obtain ⟨-, holds⟩ := Envelope.onMap_bounding? (fun v hv => .ofPoint (places_valid v hv)) eq
  have inside := Envelope.contains_upright (contains_along hu (holds a a_mem) (holds b b_mem))
  obtain ⟨piece, hpiece, within⟩ := List.any_eq_true.1 covers
  have touch : (Envelope.aroundMetres p threshold).parts.any
      (fun piece => own.upright.intersects piece.upright) = true :=
    List.any_eq_true.2 ⟨piece, hpiece, Envelope.intersects_of_contains inside within⟩
  unfold FeatureIndex.near
  have known : Feature.envelope? (α := ℝ) f = some own := eq
  rw [known]
  exact touch

end LineFeature

end Whereabouts
