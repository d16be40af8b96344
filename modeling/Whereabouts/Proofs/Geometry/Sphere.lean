import Mathlib.Analysis.Real.Pi.Bounds
import Mathlib.Analysis.SpecialFunctions.Trigonometric.Bounds
import Whereabouts.Proofs.Geometry.Reals

/-!
# Distances on the sphere

Read over the reals, the distance between two places bounds how far their latitudes and longitudes
can be apart. On the way over a pole the longitudes are half a circle apart at the least distance, so
that the bound for them is weaker by the factor `π`.

* `Point.lat_le_distance`: the latitudes are no farther apart than the places.
* `Point.lon_le_distance`: neither are the longitudes, measured along the parallel and up to `π`.
* `Envelope.covers_aroundMetres`: the rectangle around a point holds the disc of three tenths of its
  radius, over the poles and over the antimeridian.
-/

namespace Whereabouts

open Real

/-- How far two longitudes are apart, the shorter way round. -/
noncomputable def lonGap (a b : ℝ) : ℝ := min |b - a| (360 - |b - a|)

namespace Point

variable {p q : Point ℝ}

/-- The coordinates of a valid point on the reals. -/
lemma isValid_real : p.isValid = true ↔
    (-90 ≤ p.lat ∧ p.lat ≤ 90) ∧ -180 ≤ p.lon ∧ p.lon ≤ 180 := by
  rw [isValid_iff]
  norm_num [Scalar.isFinite]

/-- An angle in radians. -/
lemma radians_real (degrees : ℝ) : Scalar.radians degrees = degrees * (π / 180) := by
  show degrees * (π / 180.0) = _
  norm_num

/-- The haversine of two real points. -/
lemma haversine_real (p q : Point ℝ) : haversine p q =
    sin ((q.lat - p.lat) * (π / 180) / 2) ^ 2 +
      cos (p.lat * (π / 180)) * cos (q.lat * (π / 180)) *
        sin ((q.lon - p.lon) * (π / 180) / 2) ^ 2 := by
  unfold haversine
  rw [radians_real, radians_real, radians_real, radians_real]
  show sin _ * sin _ + cos _ * cos _ * (sin _ * sin _) = _
  norm_num
  ring

/-- The distance of two real points is that along the great circle. -/
lemma distance_real (p q : Point ℝ) : p.distance q =
    6371008.8 * (2 * arcsin √(haversine p q)) := by
  show (6371008.8 : ℝ) * (2.0 * arcsin √(haversine p q)) = _
  norm_num

/-- No latitude is beyond the poles. -/
lemma cos_lat_nonneg (valid : p.isValid = true) : 0 ≤ cos (p.lat * (π / 180)) := by
  obtain ⟨⟨south, north⟩, -⟩ := isValid_real.1 valid
  apply cos_nonneg_of_neg_pi_div_two_le_of_le <;> nlinarith [pi_pos]

/-- The part of the haversine that comes from the latitudes. -/
lemma sin_lat_le (hp : p.isValid = true) (hq : q.isValid = true) :
    |sin ((q.lat - p.lat) * (π / 180) / 2)| ≤ √(haversine p q) := by
  apply abs_le_sqrt
  rw [haversine_real]
  have rest : 0 ≤ cos (p.lat * (π / 180)) * cos (q.lat * (π / 180)) *
      sin ((q.lon - p.lon) * (π / 180) / 2) ^ 2 :=
    mul_nonneg (mul_nonneg (cos_lat_nonneg hp) (cos_lat_nonneg hq)) (sq_nonneg _)
  linarith

/-- The size of half the angle between two latitudes. -/
lemma lat_angle (p q : Point ℝ) :
    |(q.lat - p.lat) * (π / 180) / 2| = |q.lat - p.lat| * (π / 180) / 2 := by
  rw [abs_div, abs_mul, abs_of_pos (show 0 < π / 180 by positivity), abs_two]

/-- Between valid points the sine of half the way north gives this way back. -/
lemma arcsin_sin_lat (hp : p.isValid = true) (hq : q.isValid = true) :
    arcsin |sin ((q.lat - p.lat) * (π / 180) / 2)| = |q.lat - p.lat| * (π / 180) / 2 := by
  obtain ⟨⟨south, north⟩, -⟩ := isValid_real.1 hp
  obtain ⟨⟨south', north'⟩, -⟩ := isValid_real.1 hq
  have gap : |q.lat - p.lat| ≤ 180 := abs_le.2 ⟨by linarith, by linarith⟩
  have nonneg : 0 ≤ |q.lat - p.lat| * (π / 180) / 2 := by positivity
  have half : |q.lat - p.lat| * (π / 180) / 2 ≤ π / 2 := by nlinarith [pi_pos]
  have le : |(q.lat - p.lat) * (π / 180) / 2| ≤ π := by
    rw [lat_angle]
    linarith
  rw [abs_sin_eq_sin_abs_of_abs_le_pi le, lat_angle, arcsin_sin (by linarith) half]

/-- The latitudes of two places are no farther apart than the places. -/
lemma lat_le_distance (hp : p.isValid = true) (hq : q.isValid = true) :
    6371008.8 * (|q.lat - p.lat| * (π / 180)) ≤ p.distance q := by
  have le := monotone_arcsin (sin_lat_le hp hq)
  rw [arcsin_sin_lat hp hq] at le
  rw [distance_real]
  linarith

/-- On one meridian the distance is that of the latitudes. -/
lemma distance_of_lon_eq (hp : p.isValid = true) (hq : q.isValid = true) (e : q.lon = p.lon) :
    p.distance q = 6371008.8 * (|q.lat - p.lat| * (π / 180)) := by
  have hav : haversine p q = sin ((q.lat - p.lat) * (π / 180) / 2) ^ 2 := by
    rw [haversine_real, e]
    simp
  rw [distance_real, hav, sqrt_sq_eq_abs, arcsin_sin_lat hp hq]
  ring

/-- The part of the haversine that comes from the longitudes, along the parallel of the first
place. -/
lemma sin_lon_le (hp : p.isValid = true) (hq : q.isValid = true) :
    cos (p.lat * (π / 180)) * |sin ((q.lon - p.lon) * (π / 180) / 2)| / 2 ≤
      √(haversine p q) := by
  set c := cos (p.lat * (π / 180)) with c_eq
  set c' := cos (q.lat * (π / 180)) with c_eq'
  set s := sin ((q.lat - p.lat) * (π / 180) / 2)
  set x := |sin ((q.lon - p.lon) * (π / 180) / 2)| with x_eq
  have c_nonneg : 0 ≤ c := cos_lat_nonneg hp
  have c_nonneg' : 0 ≤ c' := cos_lat_nonneg hq
  have x_nonneg : 0 ≤ x := abs_nonneg _
  have x_le : x ≤ 1 := abs_sin_le_one _
  -- the parallels differ in radius by at most the chord between them
  have radii : (c - c') ^ 2 ≤ 4 * s ^ 2 := by
    set t := sin ((p.lat * (π / 180) + q.lat * (π / 180)) / 2)
    have e : c - c' = 2 * t * s := by
      have half : (p.lat * (π / 180) - q.lat * (π / 180)) / 2 =
        -((q.lat - p.lat) * (π / 180) / 2) := by ring
      rw [c_eq, c_eq', cos_sub_cos, half, sin_neg]
      ring
    have t_le : t ^ 2 ≤ 1 := sin_sq_le_one _
    calc (c - c') ^ 2 = t ^ 2 * (4 * s ^ 2) := by rw [e]; ring
      _ ≤ 4 * s ^ 2 := mul_le_of_le_one_left (by positivity) t_le
  have chord : (c * x) ^ 2 ≤ 4 * haversine p q := by
    have hav : haversine p q = s ^ 2 + c * c' * x ^ 2 := by rw [haversine_real, x_eq, sq_abs]
    have widest : x ^ 2 * (c - c') ^ 2 ≤ (c - c') ^ 2 :=
      mul_le_of_le_one_left (sq_nonneg _) (pow_le_one₀ x_nonneg x_le)
    calc (c * x) ^ 2 = x ^ 2 * c ^ 2 := by ring
      _ ≤ x ^ 2 * (c + c') ^ 2 := by gcongr; linarith
      _ = x ^ 2 * (c - c') ^ 2 + 4 * (c * c' * x ^ 2) := by ring
      _ ≤ 4 * haversine p q := by rw [hav]; linarith
  apply le_sqrt_of_sq_le
  nlinarith

/-- Half the gap of two longitudes is at most its sine up to the factor `π / 2`. -/
lemma lonGap_le (hp : p.isValid = true) (hq : q.isValid = true) :
    lonGap p.lon q.lon * (π / 180) ≤ π * |sin ((q.lon - p.lon) * (π / 180) / 2)| := by
  obtain ⟨-, west, east⟩ := isValid_real.1 hp
  obtain ⟨-, west', east'⟩ := isValid_real.1 hq
  have gap : |q.lon - p.lon| ≤ 360 := abs_le.2 ⟨by linarith, by linarith⟩
  set angle := |q.lon - p.lon| * (π / 180) / 2 with angle_eq
  have nonneg : 0 ≤ angle := by positivity
  have le : angle ≤ π := by nlinarith [pi_pos]
  have e : |(q.lon - p.lon) * (π / 180) / 2| = angle := by
    rw [angle_eq, abs_div, abs_mul, abs_of_pos (show 0 < π / 180 by positivity), abs_two]
  rw [abs_sin_eq_sin_abs_of_abs_le_pi (e.trans_le le), e]
  -- Jordan's inequality bounds the sine of the half that is acute
  have jordan : ∀ x, 0 ≤ x → x ≤ π / 2 → 2 * x ≤ π * sin x := by
    intro x x_nonneg x_le
    have h := mul_le_sin x_nonneg x_le
    rwa [div_mul_eq_mul_div, div_le_iff₀ pi_pos, mul_comm (sin x)] at h
  rcases le_total angle (π / 2) with acute | obtuse
  · calc lonGap p.lon q.lon * (π / 180) ≤ |q.lon - p.lon| * (π / 180) := by
          gcongr
          exact min_le_left _ _
      _ = 2 * angle := by ring
      _ ≤ π * sin angle := jordan angle nonneg acute
  · calc lonGap p.lon q.lon * (π / 180) ≤ (360 - |q.lon - p.lon|) * (π / 180) := by
          gcongr
          exact min_le_right _ _
      _ = 2 * (π - angle) := by ring
      _ ≤ π * sin (π - angle) := jordan _ (by linarith) (by linarith)
      _ = π * sin angle := by rw [sin_pi_sub]

/-- The longitudes of two places, measured along the parallel of the first, are no farther apart
than the places up to the factor `π`. -/
lemma lon_le_distance (hp : p.isValid = true) (hq : q.isValid = true) :
    6371008.8 * (cos (p.lat * (π / 180)) * (lonGap p.lon q.lon * (π / 180))) ≤
      π * p.distance q := by
  set c := cos (p.lat * (π / 180)) with c_eq
  set x := |sin ((q.lon - p.lon) * (π / 180) / 2)| with x_eq
  have c_nonneg : 0 ≤ c := cos_lat_nonneg hp
  have c_le : c ≤ 1 := cos_le_one _
  have x_nonneg : 0 ≤ x := abs_nonneg _
  have x_le : x ≤ 1 := abs_sin_le_one _
  have chord_nonneg : 0 ≤ c * x / 2 := by positivity
  have chord_le : c * x / 2 ≤ π / 2 := by nlinarith [pi_gt_three, mul_le_one₀ c_le x_nonneg x_le]
  have arc : c * x / 2 ≤ arcsin √(haversine p q) := by
    calc c * x / 2 = arcsin (sin (c * x / 2)) := (arcsin_sin (by linarith) chord_le).symm
      _ ≤ arcsin √(haversine p q) :=
        monotone_arcsin ((sin_le chord_nonneg).trans (sin_lon_le hp hq))
  have along : c * (lonGap p.lon q.lon * (π / 180)) ≤ c * (π * x) :=
    mul_le_mul_of_nonneg_left (lonGap_le hp hq) c_nonneg
  calc 6371008.8 * (c * (lonGap p.lon q.lon * (π / 180)))
      ≤ 6371008.8 * (c * (π * x)) := by gcongr
    _ = π * (6371008.8 * (2 * (c * x / 2))) := by ring
    _ ≤ π * (6371008.8 * (2 * arcsin √(haversine p q))) := by gcongr
    _ = π * p.distance q := by rw [distance_real]

end Point

namespace Envelope

variable {p q : Point ℝ} {metres : ℝ}

/-- How many metres a degree is reckoned at. -/
lemma metresPerDegree_real : (metresPerDegree : ℝ) = 111320 := by
  show (111320.0 : ℝ) = _
  norm_num

/-- How far a square reaches to the east, among the reals. -/
lemma lonReach_real (lat metres : ℝ) : lonReach lat metres =
    if cos (lat * (π / 180)) < 0.000001 then 180.0
    else Scalar.least (metres / (111320 * cos (lat * (π / 180)))) 180.0 := by
  rw [← Point.radians_real, ← metresPerDegree_real]
  rfl

/-- The square around a real point. -/
lemma aroundMetres_real (p : Point ℝ) (metres : ℝ) :
    aroundMetres p metres = reaching p (lonReach p.lat metres) (metres / 111320) := by
  rw [← metresPerDegree_real]
  rfl

/-- How far an envelope around a point reaches in longitude: half the circle, or the metres over
those of a degree on the parallel. -/
lemma lonReach_cases (lat metres : ℝ) :
    lonReach lat metres = 180 ∨ lonReach lat metres < 180 ∧ 0 < cos (lat * (π / 180)) ∧
      lonReach lat metres = metres / (111320 * cos (lat * (π / 180))) := by
  rw [lonReach_real]
  split
  next => left; norm_num
  next wide =>
    unfold Scalar.least
    split
    next short =>
      right
      norm_num at wide short
      exact ⟨short, by linarith, rfl⟩
    next => left; norm_num

/-- The parts of an envelope around a point. -/
lemma parts_reaching (p : Point ℝ) (lon lat : ℝ) : (reaching p lon lat).parts =
    if 360 ≤ lon + lon then [⟨-180, p.lat - lat, 180, p.lat + lat⟩]
    else if p.lon - lon < -180 then
      [⟨p.lon - lon + 360, p.lat - lat, 180, p.lat + lat⟩,
        ⟨-180, p.lat - lat, p.lon + lon, p.lat + lat⟩]
    else if 180 < p.lon + lon then
      [⟨p.lon - lon, p.lat - lat, 180, p.lat + lat⟩,
        ⟨-180, p.lat - lat, p.lon + lon - 360, p.lat + lat⟩]
    else [⟨p.lon - lon, p.lat - lat, p.lon + lon, p.lat + lat⟩] := by
  norm_num [parts, reaching]

/-- An envelope that reaches far enough covers a point, on whichever side of the antimeridian; a
point on the antimeridian only where it reaches farther. -/
lemma covers_reaching {lon lat : ℝ} (hp : p.isValid = true) (hq : q.isValid = true)
    (lats : |q.lat - p.lat| ≤ lat)
    (lons : lon = 180 ∨ lon < 180 ∧ (lonGap p.lon q.lon < lon ∨
      lonGap p.lon q.lon ≤ lon ∧ q.lon ∈ Set.Ioo (-180) 180)) :
    (reaching p lon lat).covers q = true := by
  obtain ⟨-, west, east⟩ := Point.isValid_real.1 hp
  obtain ⟨-, west', east'⟩ := Point.isValid_real.1 hq
  obtain ⟨south, north⟩ := abs_le.1 lats
  have holds : ∀ a b : ℝ, ⟨a, p.lat - lat, b, p.lat + lat⟩ ∈ (reaching p lon lat).parts →
      a ≤ q.lon → q.lon ≤ b → (reaching p lon lat).covers q = true := fun a b mem ha hb =>
    covers_of_mem mem (contains_iff.2 ⟨⟨ha, hb⟩, by dsimp only; linarith, by dsimp only; linarith⟩)
  rw [parts_reaching] at holds
  rcases lons with rfl | ⟨short, gap⟩
  · rw [if_pos (by norm_num)] at holds
    exact holds _ _ List.mem_cons_self west' east'
  rw [if_neg (by linarith)] at holds
  have ways : |q.lon - p.lon| ≤ lon ∨ 360 - |q.lon - p.lon| ≤ lon ∧
      (360 - |q.lon - p.lon| < lon ∨ q.lon ∈ Set.Ioo (-180) 180) := by
    rcases gap with lt | ⟨le, inner⟩
    · exact (min_lt_iff.1 lt).imp le_of_lt fun round => ⟨le_of_lt round, .inl round⟩
    · exact (min_le_iff.1 le).imp id fun round => ⟨round, .inr inner⟩
  rcases ways with direct | ⟨round, beyond⟩
  · obtain ⟨left, right⟩ := abs_le.1 direct
    split_ifs at holds
    · exact holds _ _ (List.mem_cons_of_mem _ List.mem_cons_self) west' (by linarith)
    · exact holds _ _ List.mem_cons_self (by linarith) east'
    · exact holds _ _ List.mem_cons_self (by linarith) (by linarith)
  · -- the shorter way round crosses the antimeridian, and so does the envelope
    rcases le_total 0 (q.lon - p.lon) with eastward | westward
    · rw [abs_of_nonneg eastward] at round beyond
      have crosses : p.lon - lon < -180 := by rcases beyond with beyond | ⟨-, beyond⟩ <;> linarith
      rw [if_pos crosses] at holds
      exact holds _ _ List.mem_cons_self (by linarith) east'
    · rw [abs_of_nonpos westward] at round beyond
      have crosses : 180 < p.lon + lon := by rcases beyond with beyond | ⟨beyond, -⟩ <;> linarith
      rw [if_neg (by linarith), if_pos crosses] at holds
      exact holds _ _ (List.mem_cons_of_mem _ List.mem_cons_self) west' (by linarith)

/-- The rectangle around a point holds the disc of three tenths of the radius. -/
lemma covers_aroundMetres (hp : p.isValid = true) (hq : q.isValid = true) (pos : 0 < metres)
    (near : p.distance q ≤ 3 / 10 * metres) : (aroundMetres p metres).covers q = true := by
  rw [aroundMetres_real]
  apply covers_reaching hp hq
  · have lat := Point.lat_le_distance hp hq
    rw [le_div_iff₀ (by norm_num)]
    nlinarith [pi_gt_d2, abs_nonneg (q.lat - p.lat)]
  · apply (lonReach_cases p.lat metres).imp_right
    rintro ⟨short, c_pos, reach⟩
    refine ⟨short, .inl ?_⟩
    have lon := Point.lon_le_distance hp hq
    set c := cos (p.lat * (π / 180))
    have along : 6371008.8 * (c * lonGap p.lon q.lon) ≤ 180 * p.distance q := by
      refine le_of_mul_le_mul_left ?_ pi_pos
      linarith
    rw [reach, lt_div_iff₀ (by positivity)]
    linarith

end Envelope

end Whereabouts
