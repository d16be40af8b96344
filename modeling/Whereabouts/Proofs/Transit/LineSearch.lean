import Whereabouts.Proofs.Geometry.Tracks

/-!
# Searching for lines

A search for lines looks at those whose rectangle touches the rectangle around the point, and gives
those of them that pass within the distance, the nearest first. The rectangle of a line is that of
its coordinates, while the distance goes the shorter way round the earth. On a track with a piece
that crosses the antimeridian, or that reaches half round the earth from the point, the two
disagree, and the line can be lost although it passes close by. So can one that has places on the
antimeridian and is just as far away as is allowed. No other line is lost.

* `LineFeature.near_of_passes`: the lines that a search cannot miss.
* `Gateway.linesNear_found`: what a search finds, over the extended reals.
* `Gateway.crossing_line_missed`: a line that leads through the point and is not found.
-/

namespace Whereabouts

section Search

variable {α : Type} [Scalar α] {point : Point α} {threshold : α} {modes : List Mode}

/-- Whether a line is of the modes asked for, any mode without modes, and passes within a distance
of a point. -/
def LineFeature.passes (point : Point α) (threshold : α) (modes : List Mode) (f : LineFeature α) :
    Bool :=
  (modes.isEmpty || modes.contains f.line.mode) && f.distance point ≤ threshold

/-- A line satisfies a plan for the lines near a point where it passes there, in one of the modes.
-/
lemma test_linesNear (f : LineFeature α) :
    (Plan.linesNear point threshold modes).predicate.test f = f.passes point threshold modes :=
  (Plan.test_within ..).trans (Bool.and_comm _ _)

/-- The lines that are found, with their tracks. -/
def LineFeature.found (features : List (LineFeature α)) (point : Point α) (threshold : α)
    (modes : List Mode) : List (LineFeature α) :=
  (Plan.linesNear point threshold modes).answer (.ofList features)

variable (features : List (LineFeature α))

/-- The lines that are found are those that pass near the point, and touch the square around it. -/
lemma LineFeature.found_perm : (found features point threshold modes).Perm (features.filter fun f =>
    FeatureIndex.near (Envelope.aroundMetres point threshold) f &&
      f.passes point threshold modes) := by
  refine (Plan.answer_perm rfl (Plan.bound_within ..) features).trans (List.Perm.of_eq ?_)
  apply List.filter_congr
  intro f _
  exact congrArg (_ && ·) (test_linesNear f)

/-- The lines that are found are sorted by their distance. -/
lemma LineFeature.found_sorted [Std.TransCmp (Scalar.rank (α := α))] :
    (found features point threshold modes).Pairwise fun f g =>
      Scalar.rankLe (f.distance point) (g.distance point) = true := by
  have ordered : (Plan.linesNear point threshold modes).order ≠ .unordered := nofun
  exact Plan.answer_sorted (τ := LineFeature α) ordered _

/-- Map data answer with the lines that are found. -/
lemma MapData.linesNear_eq [Measured α] (boundaries : List (Boundary α)) (stops : List (Stop α)) :
    ((MapData.ofFeatures boundaries stops features).gateway Id).linesNear point threshold modes =
      pure ((LineFeature.found features point threshold modes).map (·.line)) := by
  have executable : ∀ plan ∈ [Plan.linesNear point threshold modes], plan.Executable .lines := by
    intro plan mem
    cases List.mem_singleton.1 mem
    exact Plan.executable_within .lines point threshold modes (.nearestTo point) none
  show (((MapData.ofFeatures boundaries stops features).gateway Id).lines
    [Plan.linesNear point threshold modes] >>= _) = _
  rw [MapData.each_lines _ executable]
  rfl

/-- A place that does not lie on the antimeridian. -/
def Point.OffAntimeridian (p : Point α) : Prop := -180.0 < p.lon ∧ p.lon < 180.0

end Search

namespace Scalar.Hom

variable {α β : Type} [Scalar α] [Scalar β] {φ : α → β} (h : Hom φ)

include h

/-- How far a point lies to the east is kept by a map of numbers. -/
lemma eastward (origin p : Point α) :
    φ (LineFeature.eastward origin p) = LineFeature.eastward (origin.map φ) (p.map φ) := by
  unfold LineFeature.eastward
  rw [h.sub, h.remainder, h.add, h.sub, h.literal, h.literal, h.literal]
  rfl

/-- The ends of an image of a piece are joined where those of the piece are. -/
lemma joined {origin : Point α} {piece : Point α × Point α} :
    LineFeature.Joined (origin.map φ) (Prod.map (Point.map φ) (Point.map φ) piece) ↔
      LineFeature.Joined origin piece := by
  show LineFeature.eastward (origin.map φ) (piece.2.map φ) -
    LineFeature.eastward (origin.map φ) (piece.1.map φ) = φ piece.2.lon - φ piece.1.lon ↔ _
  rw [← h.eastward, ← h.eastward, ← h.sub, ← h.sub]
  exact h.inj.eq_iff

/-- The image of a track is unbroken where the track is. -/
lemma unbroken {origin : Point α} {f : LineFeature α} :
    (f.map φ).Unbroken (origin.map φ) ↔ f.Unbroken origin := by
  unfold LineFeature.Unbroken LineFeature.map
  simp only [List.forall_mem_map, Ring.segments_map, h.joined]

/-- The image of a point is off the antimeridian where the point is. -/
lemma offAntimeridian {p : Point α} : (p.map φ).OffAntimeridian ↔ p.OffAntimeridian := by
  unfold Point.OffAntimeridian
  simp only [Point.map, ← h.literal, ← h.neg, h.lt_iff]

end Scalar.Hom

section Extended

/-- A valid point among the extended reals is a real one. -/
lemma Point.exists_real {p : Point EReal} (valid : p.isValid = true) :
    ∃ q : Point ℝ, q.isValid = true ∧ p = q.map (↑) := by
  obtain ⟨⟨lat, lon⟩, -⟩ := isValid_iff.1 valid
  have lat_finite : p.lat ≠ ⊤ ∧ p.lat ≠ ⊥ := of_decide_eq_true lat
  have lon_finite : p.lon ≠ ⊤ ∧ p.lon ≠ ⊥ := of_decide_eq_true lon
  have eq : p = (p.map EReal.toReal).map (↑) :=
    (congrArg₂ Point.mk (EReal.coe_toReal lat_finite.1 lat_finite.2)
      (EReal.coe_toReal lon_finite.1 lon_finite.2)).symm
  refine ⟨p.map EReal.toReal, ?_, eq⟩
  rw [← extended.isValid, ← eq]
  exact valid

/-- A line of valid points among the extended reals is a real one. -/
lemma LineFeature.exists_real {f : LineFeature EReal}
    (valid : ∀ v ∈ f.track.flatten, v.isValid = true) :
    ∃ g : LineFeature ℝ, (∀ v ∈ g.track.flatten, v.isValid = true) ∧ f = g.map (↑) := by
  -- a valid place has no infinite coordinate, so that going to the reals and back changes none
  have back : ∀ v ∈ f.track.flatten, (v.map EReal.toReal).map (↑) = v := by
    intro v hv
    obtain ⟨w, -, rfl⟩ := Point.exists_real (valid v hv)
    rfl
  have eq : f = (f.map EReal.toReal).map (↑) := by
    refine congrArg (LineFeature.mk f.line) ?_
    show f.track = (f.track.map fun part => part.map (Point.map EReal.toReal)).map fun part =>
      part.map (Point.map (↑))
    rw [List.map_map]
    refine (List.map_id' f.track).symm.trans (List.map_congr_left fun part hp => ?_)
    show part = (part.map (Point.map EReal.toReal)).map (Point.map (↑))
    rw [List.map_map]
    refine (List.map_id' part).symm.trans (List.map_congr_left fun v hv => ?_)
    exact (back v (List.mem_flatten.2 ⟨part, hp, hv⟩)).symm
  refine ⟨f.map EReal.toReal, fun v hv => ?_, eq⟩
  have points : (f.map EReal.toReal).track.flatten = f.track.flatten.map (Point.map EReal.toReal) :=
    List.map_flatten.symm
  rw [points] at hv
  obtain ⟨w, hw, rfl⟩ := List.mem_map.1 hv
  rw [← extended.isValid, back w hw]
  exact valid w hw

/-- The smaller of two extended reals is their minimum. -/
lemma Scalar.least_extended (a b : EReal) : Scalar.least a b = min a b := by
  unfold Scalar.least
  have self : (b == b) = true := decide_eq_true rfl
  rw [self, Bool.not_true, Bool.or_false]
  rcases lt_or_ge a b with lt | ge
  · rw [if_pos (decide_eq_true lt), min_eq_left lt.le]
  · rw [if_neg (by simpa using ge), min_eq_right ge]

/-- Extended reals are ranked by their order. -/
lemma Scalar.rankLe_extended {a b : EReal} : Scalar.rankLe a b = true ↔ a ≤ b :=
  Ordering.isLE_iff_ne_gt.trans compare_le_iff_le

/-- What holds of the least of several distances holds of one of them. -/
lemma foldl_least_iff {q : EReal → Prop} (least : ∀ a b, q (min a b) ↔ q a ∨ q b)
    (distances : List EReal) (start : EReal) :
    q (distances.foldl Scalar.least start) ↔ q start ∨ ∃ d ∈ distances, q d := by
  induction distances generalizing start with
  | nil => simp
  | cons d distances ih =>
    rw [List.foldl_cons, ih, Scalar.least_extended, least, or_assoc, List.exists_mem_cons_iff]

/-- The distance to a line is the least of those to its pieces; without pieces it is infinite. -/
lemma LineFeature.distance_iff {q : EReal → Prop} (least : ∀ a b, q (min a b) ↔ q a ∨ q b)
    (infinite : ¬ q ⊤) {f : LineFeature EReal} {point : Point EReal} :
    q (f.distance point) ↔ ∃ part ∈ f.track, ∃ d ∈ partDistances point part, q d := by
  unfold distance
  rw [foldl_least_iff least]
  constructor
  · rintro (none | ⟨d, mem, holds⟩)
    · exact absurd none infinite
    · obtain ⟨part, hp, hd⟩ := List.mem_flatMap.1 mem
      exact ⟨part, hp, d, hd, holds⟩
  · rintro ⟨part, hp, d, hd, holds⟩
    exact .inr ⟨d, List.mem_flatMap.2 ⟨part, hp, hd⟩, holds⟩

/-- Whatever is said of the distance to a line of reals is said of the distance to a piece. -/
lemma LineFeature.distance_map_iff {q : EReal → Prop} (least : ∀ a b, q (min a b) ↔ q a ∨ q b)
    (infinite : ¬ q ⊤) {g : LineFeature ℝ} {p : Point ℝ} :
    q ((g.map ((↑) : ℝ → EReal)).distance (p.map (↑))) ↔
      ∃ part ∈ g.track, ∃ d ∈ partDistances p part, q (d : EReal) := by
  rw [distance_iff least infinite]
  constructor
  · rintro ⟨_, image, _, hd, holds⟩
    obtain ⟨part, hp, rfl⟩ := List.mem_map.1 image
    rw [extended.partDistances] at hd
    obtain ⟨d, there, rfl⟩ := List.mem_map.1 hd
    exact ⟨part, hp, d, there, holds⟩
  · rintro ⟨part, hp, d, hd, holds⟩
    refine ⟨_, List.mem_map_of_mem hp, d, ?_, holds⟩
    rw [extended.partDistances]
    exact List.mem_map_of_mem hd

/-- An index looks at every line that passes by, unless the line is broken. -/
lemma LineFeature.near_of_passes {f : LineFeature EReal}
    (places_valid : ∀ v ∈ f.track.flatten, v.isValid = true) {point : Point EReal}
    (valid : point.isValid = true) (unbroken : f.Unbroken point) {threshold : ℝ}
    (passes : f.distance point ≤ threshold)
    (inner : f.distance point < threshold ∨ ∀ v ∈ f.track.flatten, v.OffAntimeridian) :
    FeatureIndex.near (Envelope.aroundMetres point threshold) f = true := by
  obtain ⟨p, hp, rfl⟩ := Point.exists_real valid
  obtain ⟨g, hg, rfl⟩ := exists_real places_valid
  have whole := extended.unbroken.1 unbroken
  rw [← extended.aroundMetres, extended.near_line]
  rcases inner with lt | off
  · obtain ⟨part, mem, d, hd, lt⟩ := (distance_map_iff (q := (· < (threshold : EReal)))
      (fun _ _ => min_lt_iff) not_top_lt).1 lt
    exact near_of_piece hp hg whole mem hd (.inl (EReal.coe_lt_coe_iff.1 lt))
  · obtain ⟨part, mem, d, hd, le⟩ := (distance_map_iff (q := (· ≤ (threshold : EReal)))
      (fun _ _ => min_le_iff) (EReal.coe_lt_top threshold).not_ge).1 passes
    refine near_of_piece hp hg whole mem hd (.inr ⟨EReal.coe_le_coe_iff.1 le, fun v hv => ?_⟩)
    have points : (g.map ((↑) : ℝ → EReal)).track.flatten = g.track.flatten.map (Point.map (↑)) :=
      List.map_flatten.symm
    have image := off (v.map (↑)) (points ▸ List.mem_map_of_mem hv)
    obtain ⟨west, east⟩ := extended.offAntimeridian.1 image
    norm_num at west east
    exact ⟨west, east⟩

end Extended

/-- **What a search for lines finds.** Of the lines that pass within the distance those near the
rectangle around the point are found, the nearest first; that is all of them just when none lies off
the rectangle. No line does that is unbroken and passes more closely or has no place on the
antimeridian. -/
theorem Gateway.linesNear_found {features : List (LineFeature EReal)}
    (places_valid : ∀ f ∈ features, ∀ v ∈ f.track.flatten, v.isValid = true)
    {point : Point EReal} (valid : point.isValid = true) (threshold : ℝ) (modes : List Mode)
    (boundaries : List (Boundary EReal)) (stops : List (Stop EReal)) :
    ∃ found : List (LineFeature EReal),
      ((MapData.ofFeatures boundaries stops features).gateway Id).linesNear point threshold modes =
        pure (found.map (·.line)) ∧
      found.Perm (features.filter fun f =>
        FeatureIndex.near (Envelope.aroundMetres point threshold) f &&
          f.passes point threshold modes) ∧
      found.Pairwise (fun f g => f.distance point ≤ g.distance point) ∧
      (found.Perm (features.filter (·.passes point threshold modes)) ↔
        ∀ f ∈ features, f.passes point threshold modes = true →
          FeatureIndex.near (Envelope.aroundMetres point threshold) f = true) ∧
      ∀ f ∈ features, f.passes point threshold modes = true → f.Unbroken point →
        (f.distance point < threshold ∨ ∀ v ∈ f.track.flatten, v.OffAntimeridian) → f ∈ found := by
  have perm : (LineFeature.found features point threshold modes).Perm _ :=
    LineFeature.found_perm features
  refine ⟨_, MapData.linesNear_eq features boundaries stops, perm, ?_, ?_, ?_⟩
  · exact (LineFeature.found_sorted features).imp Scalar.rankLe_extended.1
  · rw [← filter_and_perm_iff]
    exact ⟨perm.symm.trans, perm.trans⟩
  · intro f mem passes unbroken inner
    have close : f.distance point ≤ threshold :=
      of_decide_eq_true (Bool.and_eq_true_iff.1 passes).2
    have near := LineFeature.near_of_passes (places_valid f mem) valid unbroken close inner
    exact perm.mem_iff.2 (List.mem_filter.2 ⟨mem, Bool.and_eq_true_iff.2 ⟨near, passes⟩⟩)

section Sample

/-- A line along the equator. -/
noncomputable def equatorLine (start stop : ℝ) : LineFeature ℝ :=
  ⟨⟨"relation/1", none, "Equator", none, .metro⟩, [[⟨0, start⟩, ⟨0, stop⟩]]⟩

/-- How far a point lies to the east, from the turn that brings it back. -/
lemma LineFeature.eastward_eq {p q : Point ℝ} (k : ℤ) (le : 360 * k ≤ q.lon - p.lon + 540)
    (lt : q.lon - p.lon + 540 < 360 * (k + 1)) :
    eastward p q = q.lon - p.lon + 360 * (1 - k) := by
  have floor : ⌊(q.lon - p.lon + 540) / 360⌋ = k := by
    rw [Int.floor_eq_iff, le_div_iff₀ (by norm_num), div_lt_iff₀ (by norm_num)]
    constructor <;> linarith
  show q.lon - p.lon + 540.0 - 360.0 * ⌊(q.lon - p.lon + 540.0) / 360.0⌋ - 180.0 = _
  norm_num
  rw [floor]
  ring

/-- A piece along the equator leads through the places between its ends. -/
lemma LineFeature.pieceDistance_equator {lon start stop : ℝ}
    (west : eastward ⟨0, lon⟩ ⟨0, start⟩ < 0) (east : 0 < eastward ⟨0, lon⟩ ⟨0, stop⟩) :
    pieceDistance ⟨0, lon⟩ (⟨0, start⟩, ⟨0, stop⟩) = 0 := by
  have ends (x : ℝ) : project ⟨0, lon⟩ ⟨0, x⟩ =
      (eastward (⟨0, lon⟩ : Point ℝ) ⟨0, x⟩ * 111320, 0) := by
    rw [project_real]
    simp
  set a := eastward (⟨0, lon⟩ : Point ℝ) ⟨0, start⟩ * 111320 with a_eq
  set b := eastward (⟨0, lon⟩ : Point ℝ) ⟨0, stop⟩ * 111320 with b_eq
  have a_neg : a < 0 := by linarith
  have b_pos : 0 < b := by linarith
  have length : 0 < b - a := by linarith
  have inside : 0 < -a / (b - a) ∧ -a / (b - a) < 1 := by
    rw [div_lt_one length]
    exact ⟨div_pos (by linarith) length, by linarith⟩
  have foot : squaredDistance (a, 0) (b, 0) = 0 := by
    have ratio : ((0.0 - a) * (b - a) + (0.0 - 0) * (0 - 0)) /
        ((b - a) * (b - a) + (0 - 0) * (0 - 0)) = -a / (b - a) := by
      norm_num
      rw [← neg_mul, mul_div_mul_right _ _ length.ne']
    have between : (decide ((0.0 : ℝ) < -a / (b - a)) && decide (-a / (b - a) < (1.0 : ℝ))) =
        true := by
      norm_num
      exact inside
    unfold squaredDistance
    dsimp only
    rw [ratio, if_pos between, mul_div_cancel₀ _ length.ne']
    show (0.0 - (a + -a)) * (0.0 - (a + -a)) + (0.0 - _) * (0.0 - _) = _
    norm_num
  show √(squaredDistance (project ⟨0, lon⟩ ⟨0, start⟩) (project ⟨0, lon⟩ ⟨0, stop⟩)) = 0
  rw [ends, ends, foot, Real.sqrt_zero]

/-- On the equator a line runs through a point that lies between its ends. -/
lemma LineFeature.distance_equator {lon start stop : ℝ}
    (west : eastward ⟨0, lon⟩ ⟨0, start⟩ < 0) (east : 0 < eastward ⟨0, lon⟩ ⟨0, stop⟩) :
    ((equatorLine start stop).map Real.toEReal).distance (Point.map Real.toEReal ⟨0, lon⟩) = 0 := by
  set place : Point EReal := Point.map Real.toEReal ⟨0, lon⟩ with place_eq
  set places : List (Point EReal) :=
    ([⟨0, start⟩, ⟨0, stop⟩] : List (Point ℝ)).map (Point.map Real.toEReal) with places_eq
  have pieces : partDistances place places = [0] := by
    have single : partDistances (⟨0, lon⟩ : Point ℝ) [⟨0, start⟩, ⟨0, stop⟩] =
        [pieceDistance ⟨0, lon⟩ (⟨0, start⟩, ⟨0, stop⟩)] := rfl
    rw [place_eq, places_eq, extended.partDistances, single, pieceDistance_equator west east]
    rfl
  have whole : ((equatorLine start stop).map Real.toEReal).distance place =
      (partDistances place places ++ []).foldl Scalar.least ⊤ := rfl
  rw [whole, pieces]
  exact (Scalar.least_extended ⊤ 0).trans (min_eq_right le_top)

/-- The square around a point on the equator is as long as it is high. -/
lemma Envelope.aroundMetres_equator {lon metres : ℝ} (short : metres / 111320 < 180) :
    aroundMetres ⟨0, lon⟩ metres = reaching ⟨0, lon⟩ (metres / 111320) (metres / 111320) := by
  rw [aroundMetres_real, lonReach_real, zero_mul, Real.cos_zero, mul_one, if_neg (by norm_num)]
  unfold Scalar.least
  rw [if_pos]
  norm_num
  exact short

/-- A line is found from a place that it leads through. -/
theorem Gateway.equator_found :
    ∃ found : List (LineFeature EReal),
      ((MapData.ofFeatures [] [] [(equatorLine 0 1).map Real.toEReal]).gateway Id).linesNear
        (Point.map Real.toEReal ⟨0, 0.5⟩) (1000 : ℝ) [] = pure (found.map (·.line)) ∧
      (equatorLine 0 1).map Real.toEReal ∈ found := by
  have west : LineFeature.eastward (⟨0, 0.5⟩ : Point ℝ) ⟨0, 0⟩ = -0.5 := by
    rw [LineFeature.eastward_eq 1] <;> norm_num
  have east : LineFeature.eastward (⟨0, 0.5⟩ : Point ℝ) ⟨0, 1⟩ = 0.5 := by
    rw [LineFeature.eastward_eq 1] <;> norm_num
  have through := LineFeature.distance_equator (by rw [west]; norm_num) (by rw [east]; norm_num)
  have places : ∀ v ∈ ((equatorLine 0 1).map Real.toEReal).track.flatten, v.isValid = true := by
    rintro v (_ | ⟨_, _ | ⟨_, ⟨⟩⟩⟩)
    · exact (extended.isValid _).trans (Point.isValid_real.2 (by norm_num))
    · exact (extended.isValid _).trans (Point.isValid_real.2 (by norm_num))
  have valid : (Point.map Real.toEReal ⟨0, 0.5⟩).isValid = true :=
    (extended.isValid _).trans (Point.isValid_real.2 (by norm_num))
  have unbroken : ((equatorLine 0 1).map Real.toEReal).Unbroken
      (Point.map Real.toEReal ⟨0, 0.5⟩) := by
    rw [extended.unbroken]
    rintro part (_ | ⟨_, ⟨⟩⟩) piece (_ | ⟨_, ⟨⟩⟩)
    show LineFeature.eastward _ _ - LineFeature.eastward _ _ = (1 : ℝ) - 0
    rw [west, east]
    norm_num
  have near : ((equatorLine 0 1).map Real.toEReal).distance (Point.map Real.toEReal ⟨0, 0.5⟩) <
      (1000 : ℝ) := by
    rw [through]
    exact EReal.coe_lt_coe_iff.2 (by norm_num)
  obtain ⟨found, answer, -, -, -, all⟩ := linesNear_found
    (fun f hf => List.mem_singleton.1 hf ▸ places) valid 1000 [] [] []
  refine ⟨found, answer, all _ List.mem_cons_self ?_ unbroken (.inl near)⟩
  exact decide_eq_true near.le

/-- A line that crosses the antimeridian is not found from a place that it leads through. -/
theorem Gateway.crossing_line_missed :
    ((equatorLine 179 (-179)).map Real.toEReal).distance (Point.map Real.toEReal ⟨0, 179.5⟩) = 0 ∧
      ((MapData.ofFeatures [] [] [(equatorLine 179 (-179)).map Real.toEReal]).gateway Id).linesNear
        (Point.map Real.toEReal ⟨0, 179.5⟩) (1000 : ℝ) [] = pure [] := by
  constructor
  · apply LineFeature.distance_equator
    · rw [LineFeature.eastward_eq 1] <;> norm_num
    · rw [LineFeature.eastward_eq 0] <;> norm_num
  · have far : FeatureIndex.near (Envelope.aroundMetres (⟨0, 179.5⟩ : Point ℝ) 1000)
        (equatorLine 179 (-179)) = false := by
      have own : Feature.envelope? (α := ℝ) (equatorLine 179 (-179)) = some ⟨-179, 0, 179, 0⟩ := by
        show some (Envelope.extend _ _) = _
        norm_num [Envelope.extend, Envelope.ofPoint]
      have around : (Envelope.aroundMetres (⟨0, 179.5⟩ : Point ℝ) 1000).parts =
          [⟨179.5 - 1000 / 111320, 0 - 1000 / 111320, 179.5 + 1000 / 111320,
            0 + 1000 / 111320⟩] := by
        rw [Envelope.aroundMetres_equator (by norm_num), Envelope.parts_reaching,
          if_neg (by norm_num), if_neg (by norm_num), if_neg (by norm_num)]
      unfold FeatureIndex.near
      rw [own, around]
      norm_num [Envelope.intersects, Envelope.upright, Envelope.lowerOf, Envelope.upperOf]
    have perm : (LineFeature.found [(equatorLine 179 (-179)).map Real.toEReal]
        (Point.map Real.toEReal ⟨0, 179.5⟩) (1000 : ℝ) []).Perm _ := LineFeature.found_perm _
    rw [← extended.aroundMetres, List.filter_cons, extended.near_line, far] at perm
    rw [MapData.linesNear_eq, perm.eq_nil]
    rfl

end Sample

end Whereabouts
