import Mathlib.Order.Bounds.Basic
import Whereabouts.Proofs.Transit.LineSearch

/-!
# Ways round the earth

A piece of a track leads from one end to the other the shorter way round the earth. The distance to
it is measured on a plane around a point, where each end stands on the side to which the way from the
point is shorter, and the piece is drawn between these two. So it is drawn the way on which the
meridian opposite to the point does not lie, and that is the longer way where this meridian lies on
the shorter one. The distance is never too great, but it can be too small: then it is the distance of
a place which is not on the track. All this holds whatever the cosine of the latitude is.

* `LineFeature.drawn_cases`: the way that is drawn.
* `LineFeature.squaredDistance_le`: no place on a piece of the plane is nearer than the piece.
* `LineFeature.abs_drawn_le`: the way that is drawn leads past the point more closely.
* `LineFeature.distance_drawn`: the main statement.
* `LineFeature.far_piece_near`: a line on the other side of the earth at no distance.
-/

namespace Whereabouts

open Set

/-- The reals with another function for the cosine. -/
noncomputable abbrev Scalar.realWith (cos : ℝ → ℝ) : Scalar ℝ :=
  { (inferInstance : Scalar ℝ) with cos }

/-- The extended reals with another function for the cosine. -/
noncomputable abbrev Scalar.extendedWith (cos : ℝ → ℝ) : Scalar EReal :=
  { (inferInstance : Scalar EReal) with cos := fun a => (cos a.toReal : ℝ) }

/-- The reals are embedded in the extended reals with any cosine. -/
lemma extendedWith_hom (cos : ℝ → ℝ) :
    @Scalar.Hom ℝ EReal (.realWith cos) (.extendedWith cos) (↑) :=
  @Scalar.Hom.mk ℝ EReal (.realWith cos) (.extendedWith cos) (↑) extended.inj extended.add
    extended.sub extended.mul extended.div extended.neg extended.literal extended.le_iff
    extended.lt_iff extended.beq extended.isFinite extended.pi extended.sqrt (fun _ => rfl)
    extended.remainder

namespace LineFeature

variable (cos : ℝ → ℝ)

/-- The distance to a line of reals. -/
noncomputable def distanceWith (f : LineFeature ℝ) (p : Point ℝ) : EReal :=
  letI := Scalar.extendedWith cos
  (f.map ((↑) : ℝ → EReal)).distance (p.map (↑))

/-- The distance of a place on the plane around a point. -/
noncomputable def placeDistance (p q : Point ℝ) : ℝ :=
  letI := Scalar.realWith cos
  Scalar.sqrt (squaredNorm (project p q))

/-- The distances from a point to the pieces of one part of a track. -/
noncomputable def partDistancesWith (p : Point ℝ) (part : List (Point ℝ)) : List ℝ :=
  letI := Scalar.realWith cos
  partDistances p part

/-- A track is no farther than something where a piece of one of its parts is not. -/
lemma distanceWith_le_iff {f : LineFeature ℝ} {p : Point ℝ} {x : EReal} :
    f.distanceWith cos p ≤ x ↔
      ⊤ ≤ x ∨ ∃ part ∈ f.track, ∃ d ∈ partDistancesWith cos p part, (d : EReal) ≤ x := by
  have pieces : List.flatMap (@partDistances EReal (.extendedWith cos) (p.map (↑)))
      (f.map ((↑) : ℝ → EReal)).track =
        f.track.flatMap fun part => (partDistancesWith cos p part).map (↑) := by
    have track : (f.map ((↑) : ℝ → EReal)).track = f.track.map (List.map (Point.map (↑))) := rfl
    rw [track, List.flatMap_map]
    exact congrArg (List.flatMap · f.track) (funext (@Scalar.Hom.partDistances ℝ EReal
      (.realWith cos) (.extendedWith cos) (↑) (extendedWith_hom cos) p))
  have least : f.distanceWith cos p =
      (f.track.flatMap fun part => (partDistancesWith cos p part).map ((↑) : ℝ → EReal)).foldl
        Scalar.least ⊤ := by
    rw [← pieces]
    rfl
  rw [least, foldl_least_iff (q := (· ≤ x)) fun _ _ => min_le_iff]
  refine or_congr_right ?_
  simp only [List.mem_flatMap, List.mem_map]
  constructor
  · rintro ⟨_, ⟨part, hp, d, hd, rfl⟩, le⟩
    exact ⟨part, hp, d, hd, le⟩
  · rintro ⟨part, hp, d, hd, le⟩
    exact ⟨_, ⟨part, hp, d, hd, rfl⟩, le⟩

section Ways

variable {p q a b : Point ℝ} {u : ℝ}

/-- The place that a part of some way from one place to another leads to. -/
def alongWay (way : ℝ) (a b : Point ℝ) (u : ℝ) : Point ℝ :=
  ⟨a.lat + u * (b.lat - a.lat), a.lon + u * way⟩

/-- How many degrees east a piece is drawn around a point. -/
noncomputable def drawn (p a b : Point ℝ) : ℝ := eastward p b - eastward p a

/-- Points lie at most half a turn to the east or west. -/
lemma eastward_mem (p q : Point ℝ) : eastward p q ∈ Ico (-180) 180 := by
  have floor := Int.floor_le ((q.lon - p.lon + 540.0) / 360.0)
  have next := Int.lt_floor_add_one ((q.lon - p.lon + 540.0) / 360.0)
  show q.lon - p.lon + 540.0 - 360.0 * ⌊(q.lon - p.lon + 540.0) / 360.0⌋ - 180.0 ∈ Ico (-180) 180
  generalize (⌊(q.lon - p.lon + 540.0) / 360.0⌋ : ℝ) = n at *
  rw [le_div_iff₀ (by norm_num)] at floor
  rw [div_lt_iff₀ (by norm_num)] at next
  constructor <;> norm_num at * <;> linarith

/-- What is some turns round the earth away from a number of degrees is one turn away at most. -/
lemma turn_cases {x e : ℝ} {k : ℤ} (mem : e ∈ Ico (-180) 180) (turns : e = x + 360 * k)
    (lower : -540 ≤ x) (upper : x < 540) :
    x ∈ Ico (-180) 180 ∧ e = x ∨ 180 ≤ x ∧ e = x - 360 ∨ x < -180 ∧ e = x + 360 := by
  obtain ⟨west, east⟩ := mem
  have k_lt : k < 2 := by
    have : (k : ℝ) < 2 := by linarith
    exact_mod_cast this
  have lt_k : -2 < k := by
    have : (-2 : ℝ) < k := by linarith
    exact_mod_cast this
  obtain rfl | rfl | rfl : k = -1 ∨ k = 0 ∨ k = 1 := by omega
  · push_cast at turns
    exact .inr (.inl ⟨by linarith, by linarith⟩)
  · push_cast at turns
    exact .inl ⟨⟨by linarith, by linarith⟩, by linarith⟩
  · push_cast at turns
    exact .inr (.inr ⟨by linarith, by linarith⟩)

/-- A piece is drawn the shorter way, unless the meridian opposite to the point lies on it. -/
lemma drawn_cases (p a b : Point ℝ) :
    eastward p a + eastward a b ∈ Ico (-180) 180 ∧ drawn p a b = eastward a b ∨
      180 ≤ eastward p a + eastward a b ∧ drawn p a b = eastward a b - 360 ∨
      eastward p a + eastward a b < -180 ∧ drawn p a b = eastward a b + 360 := by
  obtain ⟨k, pa⟩ := eastward_real p a
  obtain ⟨l, ab⟩ := eastward_real a b
  obtain ⟨m, pb⟩ := eastward_real p b
  obtain ⟨pa_west, pa_east⟩ := eastward_mem p a
  obtain ⟨ab_west, ab_east⟩ := eastward_mem a b
  have turns : eastward p b = eastward p a + eastward a b + 360 * ((m - k - l : ℤ) : ℝ) := by
    push_cast
    linarith
  unfold drawn
  refine (turn_cases (eastward_mem p b) turns (by linarith) (by linarith)).imp ?_ (.imp ?_ ?_)
  · exact fun h => ⟨h.1, by linarith [h.2]⟩
  · exact fun h => ⟨h.1, by linarith [h.2]⟩
  · exact fun h => ⟨h.1, by linarith [h.2]⟩

/-- A piece is drawn the short way where it does not cross the meridian opposite to the point. -/
lemma drawn_eq_iff : drawn p a b = eastward a b ↔ eastward p a + eastward a b ∈ Ico (-180) 180 := by
  constructor
  · intro e
    rcases drawn_cases p a b with ⟨mem, -⟩ | ⟨-, e'⟩ | ⟨-, e'⟩
    · exact mem
    · linarith
    · linarith
  · intro mem
    rcases drawn_cases p a b with ⟨-, e⟩ | ⟨out, -⟩ | ⟨out, -⟩
    · exact e
    · exact absurd mem.2 out.not_gt
    · exact absurd mem.1 out.not_ge

/-- Otherwise it is drawn the longer way. -/
lemma abs_drawn (ne : drawn p a b ≠ eastward a b) : |drawn p a b| = 360 - |eastward a b| := by
  obtain ⟨pa_west, pa_east⟩ := eastward_mem p a
  obtain ⟨ab_west, ab_east⟩ := eastward_mem a b
  rcases drawn_cases p a b with ⟨-, e⟩ | ⟨out, e⟩ | ⟨out, e⟩
  · exact absurd e ne
  · rw [e, abs_of_neg (by linarith), abs_of_pos (by linarith)]
    ring
  · rw [e, abs_of_pos (by linarith), abs_of_neg (by linarith)]
    ring

/-- The way that is drawn does not lead over the meridian opposite to the point. -/
lemma eastward_drawn (part : u ∈ Icc (0 : ℝ) 1) :
    eastward p (alongWay (drawn p a b) a b u) = eastward p a + u * drawn p a b := by
  obtain ⟨k, pa⟩ := eastward_real p a
  obtain ⟨l, pq⟩ := eastward_real p (alongWay (drawn p a b) a b u)
  have inside : eastward p a + u * drawn p a b ∈ Ico (-180) 180 :=
    (convex_Ico _ _).add_smul_sub_mem (eastward_mem p a) (eastward_mem p b) part
  have turns : eastward p (alongWay (drawn p a b) a b u) =
      eastward p a + u * drawn p a b + 360 * ((l - k : ℤ) : ℝ) := by
    rw [pq]
    dsimp only [alongWay]
    push_cast
    linarith
  obtain ⟨west, east⟩ := inside
  rcases turn_cases (eastward_mem _ _) turns (by linarith) (by linarith) with ⟨-, e⟩ | out | out
  · exact e
  · exact absurd east out.1.not_gt
  · exact absurd west out.1.not_ge

/-- The way that is drawn leads past the point no farther away than the shorter way. -/
lemma abs_drawn_le (part : u ∈ Icc (0 : ℝ) 1) : |eastward p a + u * drawn p a b| ≤
    |eastward p (alongWay (eastward a b) a b u)| := by
  obtain ⟨nonneg, le_one⟩ := part
  obtain ⟨k, pa⟩ := eastward_real p a
  obtain ⟨l, pq⟩ := eastward_real p (alongWay (eastward a b) a b u)
  obtain ⟨pa_west, pa_east⟩ := eastward_mem p a
  obtain ⟨ab_west, ab_east⟩ := eastward_mem a b
  have turns : eastward p (alongWay (eastward a b) a b u) =
      eastward p a + u * eastward a b + 360 * ((l - k : ℤ) : ℝ) := by
    rw [pq]
    dsimp only [alongWay]
    push_cast
    linarith
  set e := eastward p (alongWay (eastward a b) a b u) with e_def
  set x := eastward p a with x_def
  set y := eastward a b with y_def
  have uy_lower : -180 * u ≤ u * y := by nlinarith
  have uy_upper : u * y ≤ 180 * u := by nlinarith
  have cases := turn_cases (eastward_mem _ _) turns (by linarith) (by linarith)
  have pos := le_abs_self e
  have neg := neg_abs_le e
  -- where the longer way is drawn, the shorter one leads over the meridian opposite to `p`: its
  -- places lie beyond one end or the other of what is drawn
  rcases drawn_cases p a b with ⟨mem, w⟩ | ⟨out, w⟩ | ⟨out, w⟩ <;> rw [w, abs_le]
  · have same := eastward_drawn (p := p) (a := a) (b := b) ⟨nonneg, le_one⟩
    rw [w] at same
    constructor <;> linarith
  · have ux : u * x ≤ x := by nlinarith
    have beyond : 180 * u ≤ u * (x + y) := by nlinarith
    rcases cases with ⟨-, e_eq⟩ | ⟨-, e_eq⟩ | ⟨below, e_eq⟩
    · constructor <;> linarith
    · constructor <;> linarith
    · linarith
  · have ux : x ≤ u * x := by nlinarith
    have beyond : u * (x + y) ≤ -180 * u := by nlinarith
    rcases cases with ⟨-, e_eq⟩ | ⟨above, e_eq⟩ | ⟨-, e_eq⟩
    · constructor <;> linarith
    · linarith
    · constructor <;> linarith

end Ways

section Plane

/-- Where the perpendicular from the centre meets the line through a piece, as a part of the piece. -/
lemma perpendicular (x y c d : ℝ) :
    ((0.0 - x) * c + (0.0 - y) * d) / (c * c + d * d) * (c * c + d * d) = -(x * c + y * d) := by
  have length : 0 ≤ c * c + d * d := add_nonneg (mul_self_nonneg c) (mul_self_nonneg d)
  rcases length.eq_or_lt' with zero | pos
  · have c_zero : c = 0 := by nlinarith
    have d_zero : d = 0 := by nlinarith
    rw [c_zero, d_zero]
    ring
  · rw [div_mul_cancel₀ _ pos.ne']
    norm_num
    ring

/-- Places on a line are the nearer, the closer they are to the foot of the perpendicular. -/
lemma squares_le {x y c d s v w : ℝ} (foot : s * (c * c + d * d) = -(x * c + y * d))
    (closer : (v - s) ^ 2 ≤ (w - s) ^ 2) :
    (x + v * c) ^ 2 + (y + v * d) ^ 2 ≤ (x + w * c) ^ 2 + (y + w * d) ^ 2 := by
  have length : 0 ≤ c * c + d * d := add_nonneg (mul_self_nonneg c) (mul_self_nonneg d)
  have excess : (x + v * c) ^ 2 + (y + v * d) ^ 2 + (c * c + d * d) * (w - s) ^ 2 =
      (x + w * c) ^ 2 + (y + w * d) ^ 2 + (c * c + d * d) * (v - s) ^ 2 := by
    linear_combination 2 * (v - w) * foot
  have scaled := mul_le_mul_of_nonneg_left closer length
  linarith

/-- No place on a piece of the plane is nearer than the piece. -/
lemma squaredDistance_le (a b : ℝ × ℝ) {u : ℝ} (part : u ∈ Icc (0 : ℝ) 1) :
    squaredDistance a b ≤ (a.1 + u * (b.1 - a.1)) ^ 2 + (a.2 + u * (b.2 - a.2)) ^ 2 := by
  obtain ⟨nonneg, le_one⟩ := part
  have foot := perpendicular a.1 a.2 (b.1 - a.1) (b.2 - a.2)
  unfold squaredDistance
  dsimp only
  generalize ((0.0 - a.1) * (b.1 - a.1) + (0.0 - a.2) * (b.2 - a.2)) /
    ((b.1 - a.1) * (b.1 - a.1) + (b.2 - a.2) * (b.2 - a.2)) = s at *
  -- of all parts of the piece the one that is nearest to the foot of the perpendicular is taken
  split
  next inside =>
    have closer : (s - s) ^ 2 ≤ (u - s) ^ 2 := by
      rw [sub_self, zero_pow two_ne_zero]
      exact sq_nonneg _
    rw [squaredNorm_back, mul_comm _ s, mul_comm _ s]
    exact squares_le foot closer
  next outside =>
    rw [Bool.and_eq_true, decide_eq_true_eq, decide_eq_true_eq] at outside
    norm_num at outside
    split
    next before =>
      norm_num at before
      have closer : (0 - s) ^ 2 ≤ (u - s) ^ 2 := by nlinarith
      have le := squares_le foot closer
      rw [zero_mul, zero_mul, add_zero, add_zero] at le
      rw [squaredNorm_back]
      exact le
    next after =>
      norm_num at after
      have closer : (1 - s) ^ 2 ≤ (u - s) ^ 2 := by nlinarith [outside after]
      have le := squares_le foot closer
      rw [one_mul, one_mul, add_sub_cancel, add_sub_cancel] at le
      rw [squaredNorm_back]
      exact le

end Plane

section Tracks

variable {cos} {p q r a b : Point ℝ} {u : ℝ} {f : LineFeature ℝ}

/-- A point is projected to the plane around another one, in metres. -/
lemma project_with (cos : ℝ → ℝ) (p q : Point ℝ) : @project ℝ (.realWith cos) p q =
    (eastward p q * 111320 * cos (p.lat * (Real.pi / 180)), (q.lat - p.lat) * 111320) := by
  rw [← Point.radians_real, ← Envelope.metresPerDegree_real]
  rfl

/-- The distance of a place, in the plane around the point. -/
lemma placeDistance_eq (cos : ℝ → ℝ) (p q : Point ℝ) : placeDistance cos p q =
    √((eastward p q * 111320 * cos (p.lat * (Real.pi / 180))) ^ 2 +
      ((q.lat - p.lat) * 111320) ^ 2) := by
  have norm : placeDistance cos p q = √(squaredNorm (@project ℝ (.realWith cos) p q)) := rfl
  rw [norm, project_with]
  unfold squaredNorm
  rw [pow_two, pow_two]

/-- Of two places of one latitude that less far east or west is nearer. -/
lemma placeDistance_le (lat : q.lat = r.lat) (le : |eastward p q| ≤ |eastward p r|) :
    placeDistance cos p q ≤ placeDistance cos p r := by
  rw [placeDistance_eq, placeDistance_eq, lat]
  apply Real.sqrt_le_sqrt
  have sq : eastward p q ^ 2 ≤ eastward p r ^ 2 := sq_le_sq.2 le
  have scaled := mul_le_mul_of_nonneg_right sq
    (sq_nonneg (111320 * cos (p.lat * (Real.pi / 180))))
  linarith

/-- On the plane a piece is straight. -/
lemma placeDistance_drawn (cos : ℝ → ℝ) (p a b : Point ℝ) (part : u ∈ Icc (0 : ℝ) 1) :
    let start := @project ℝ (.realWith cos) p a
    let stop := @project ℝ (.realWith cos) p b
    placeDistance cos p (alongWay (drawn p a b) a b u) =
      √((start.1 + u * (stop.1 - start.1)) ^ 2 + (start.2 + u * (stop.2 - start.2)) ^ 2) := by
  intro start stop
  rw [placeDistance_eq, eastward_drawn part]
  apply congrArg
  simp only [start, stop, project_with, alongWay, drawn]
  ring

/-- The distance to a piece is the least of those of the places on the way that is drawn. -/
lemma pieceDistance_least (cos : ℝ → ℝ) (p a b : Point ℝ) :
    IsLeast {d | ∃ u ∈ Icc (0 : ℝ) 1, d = placeDistance cos p (alongWay (drawn p a b) a b u)}
      (@pieceDistance ℝ (.realWith cos) p (a, b)) := by
  have piece : @pieceDistance ℝ (.realWith cos) p (a, b) =
      √(squaredDistance (@project ℝ (.realWith cos) p a) (@project ℝ (.realWith cos) p b)) := rfl
  rw [piece]
  constructor
  · obtain ⟨u, part, foot⟩ :=
      exists_foot (@project ℝ (.realWith cos) p a) (@project ℝ (.realWith cos) p b)
    exact ⟨u, part, by rw [foot, placeDistance_drawn cos p a b part]⟩
  · rintro d ⟨u, part, rfl⟩
    rw [placeDistance_drawn cos p a b part]
    exact Real.sqrt_le_sqrt (squaredDistance_le _ _ part)

/-- The places on a track, with the pieces taken some way round the earth. -/
inductive OnTrack (way : Point ℝ → Point ℝ → ℝ) (f : LineFeature ℝ) : Point ℝ → Prop
  | vertex {part : List (Point ℝ)} {v : Point ℝ} (hp : part ∈ f.track) (hv : v ∈ part) :
    OnTrack way f v
  | along {part : List (Point ℝ)} {a b : Point ℝ} {u : ℝ} (hp : part ∈ f.track)
    (hs : (a, b) ∈ Ring.segments part) (hu : u ∈ Icc (0 : ℝ) 1) :
    OnTrack way f (alongWay (way a b) a b u)

/-- The distances of the places on a track, with the pieces taken some way round the earth. -/
def distances (cos : ℝ → ℝ) (p : Point ℝ) (way : Point ℝ → Point ℝ → ℝ) (f : LineFeature ℝ) :
    Set EReal :=
  {d | ∃ q, OnTrack way f q ∧ d = placeDistance cos p q}

/-- A place of a part is an end of a piece, if it is not alone. -/
lemma exists_segment {v a b : Point ℝ} {rest : List (Point ℝ)} (hv : v ∈ a :: b :: rest) :
    ∃ x y, (x, y) ∈ Ring.segments (a :: b :: rest) ∧ (v = x ∨ v = y) := by
  induction rest generalizing a b with
  | nil =>
    refine ⟨a, b, List.mem_cons_self, ?_⟩
    simpa using hv
  | cons c rest ih =>
    rcases List.mem_cons.1 hv with rfl | hv
    · exact ⟨v, b, List.mem_cons_self, .inl rfl⟩
    · obtain ⟨x, y, mem, e⟩ := ih hv
      exact ⟨x, y, List.mem_cons_of_mem _ mem, e⟩

/-- The distances to the pieces of a part are distances of places on the ways that are drawn. -/
lemma exists_place_of_part {part : List (Point ℝ)} (hp : part ∈ f.track) {d : ℝ}
    (hd : d ∈ partDistancesWith cos p part) :
    ∃ q, OnTrack (drawn p) f q ∧ d = placeDistance cos p q := by
  rcases part with _ | ⟨a, _ | ⟨b, rest⟩⟩
  · cases hd
  · exact ⟨a, .vertex hp List.mem_cons_self, List.mem_singleton.1 hd⟩
  · obtain ⟨⟨x, y⟩, mem, rfl⟩ := List.mem_map.1 hd
    obtain ⟨u, hu, e⟩ := (pieceDistance_least cos p x y).1
    exact ⟨_, .along hp mem hu, e⟩

/-- The distance to a piece is one of those to its part. -/
lemma pieceDistance_mem {part : List (Point ℝ)} (hs : (a, b) ∈ Ring.segments part) :
    @pieceDistance ℝ (.realWith cos) p (a, b) ∈ partDistancesWith cos p part := by
  rcases part with _ | ⟨x, _ | ⟨y, rest⟩⟩
  · cases hs
  · cases hs
  · exact List.mem_map_of_mem hs

/-- The ends of a piece are no nearer than the piece. -/
lemma pieceDistance_le_ends (cos : ℝ → ℝ) (p a b : Point ℝ) :
    @pieceDistance ℝ (.realWith cos) p (a, b) ≤ placeDistance cos p a ∧
      @pieceDistance ℝ (.realWith cos) p (a, b) ≤ placeDistance cos p b := by
  have start : placeDistance cos p a = placeDistance cos p (alongWay (drawn p a b) a b 0) := by
    rw [placeDistance_eq, placeDistance_eq, eastward_drawn (left_mem_Icc.2 zero_le_one)]
    simp [alongWay]
  have stop : placeDistance cos p b = placeDistance cos p (alongWay (drawn p a b) a b 1) := by
    rw [placeDistance_eq, placeDistance_eq, eastward_drawn (right_mem_Icc.2 zero_le_one)]
    simp [alongWay, drawn]
  have least := (pieceDistance_least cos p a b).2
  exact ⟨start ▸ least ⟨0, left_mem_Icc.2 zero_le_one, rfl⟩,
    stop ▸ least ⟨1, right_mem_Icc.2 zero_le_one, rfl⟩⟩

/-- No place on the ways that are drawn is nearer than all pieces. -/
lemma exists_distance_le (on : OnTrack (drawn p) f q) :
    ∃ part ∈ f.track, ∃ d ∈ partDistancesWith cos p part, d ≤ placeDistance cos p q := by
  cases on with
  | @vertex part _ hp hv =>
    refine ⟨part, hp, ?_⟩
    rcases part with _ | ⟨a, _ | ⟨b, rest⟩⟩
    · cases hv
    · obtain rfl := List.mem_singleton.1 hv
      exact ⟨_, List.mem_cons_self, le_refl (placeDistance cos p q)⟩
    · obtain ⟨x, y, mem, rfl | rfl⟩ := exists_segment hv
      · exact ⟨_, pieceDistance_mem mem, (pieceDistance_le_ends cos p _ _).1⟩
      · exact ⟨_, pieceDistance_mem mem, (pieceDistance_le_ends cos p _ _).2⟩
  | @along part a b u hp hs hu =>
    exact ⟨part, hp, _, pieceDistance_mem hs, (pieceDistance_least cos p a b).2 ⟨u, hu, rfl⟩⟩

/-- Where there is a place on a track some way round there is one of its coordinates. -/
lemma flatten_ne_nil {way : Point ℝ → Point ℝ → ℝ} (on : OnTrack way f q) :
    f.track.flatten ≠ [] := by
  obtain ⟨part, hp, v, hv⟩ : ∃ part ∈ f.track, ∃ v, v ∈ part := by
    cases on with
    | vertex hp hv => exact ⟨_, hp, _, hv⟩
    | along hp hs => exact ⟨_, hp, _, (List.of_mem_zip hs).1⟩
  exact List.ne_nil_of_mem (List.mem_flatten.2 ⟨part, hp, hv⟩)

/-- A track is no farther than any place on it, as it is drawn. -/
lemma distanceWith_le (on : OnTrack (drawn p) f q) :
    f.distanceWith cos p ≤ placeDistance cos p q := by
  obtain ⟨part, hp, d, hd, le⟩ := exists_distance_le on
  exact (distanceWith_le_iff cos).2 (.inr ⟨part, hp, d, hd, EReal.coe_le_coe_iff.2 le⟩)

/-- The distance is that of a place on the ways that are drawn, or there is no place. -/
lemma distanceWith_cases (cos : ℝ → ℝ) (f : LineFeature ℝ) (p : Point ℝ) :
    f.distanceWith cos p = ⊤ ∨ f.distanceWith cos p ∈ distances cos p (drawn p) f := by
  rcases (distanceWith_le_iff cos).1 (le_refl (f.distanceWith cos p)) with top | found
  · exact .inl (top_le_iff.1 top)
  · obtain ⟨part, hp, d, hd, le⟩ := found
    obtain ⟨q, on, rfl⟩ := exists_place_of_part hp hd
    exact .inr ⟨q, on, le_antisymm (distanceWith_le on) le⟩

/-- A track is infinitely far away where it has no points. -/
lemma distanceWith_eq_top_iff : f.distanceWith cos p = ⊤ ↔ f.track.flatten = [] := by
  constructor
  · intro top
    by_contra ne
    obtain ⟨v, hv⟩ := List.exists_mem_of_ne_nil _ ne
    obtain ⟨part, hp, hv⟩ := List.mem_flatten.1 hv
    have le : f.distanceWith cos p ≤ placeDistance cos p v := distanceWith_le (.vertex hp hv)
    exact EReal.coe_ne_top _ (top_le_iff.1 (top ▸ le))
  · intro none
    refine (distanceWith_cases cos f p).resolve_right ?_
    rintro ⟨q, on, -⟩
    exact flatten_ne_nil on none

/-- No place on the track is nearer than the distance. -/
lemma distanceWith_le_shorter (on : OnTrack eastward f q) :
    f.distanceWith cos p ≤ placeDistance cos p q := by
  cases on with
  | vertex hp hv => exact distanceWith_le (.vertex hp hv)
  | @along part a b u hp hs hu =>
    have le : placeDistance cos p (alongWay (drawn p a b) a b u) ≤
        placeDistance cos p (alongWay (eastward a b) a b u) := by
      have lat : (alongWay (drawn p a b) a b u).lat = (alongWay (eastward a b) a b u).lat := rfl
      apply placeDistance_le lat
      rw [eastward_drawn hu]
      exact abs_drawn_le hu
    exact (distanceWith_le (.along hp hs hu)).trans (EReal.coe_le_coe_iff.2 le)

end Tracks

/-- **Which distance is measured.** It is infinite just where the track has no coordinates; else it
is the least distance of the places on the ways that are drawn. A piece is drawn the shorter way
where the meridian opposite to the point does not lie on this way, and else the longer way. So no
place on the track is nearer, with its pieces taken the shorter way; and where no piece is drawn the
longer way the distance is the least distance of the places on the track. -/
theorem distance_drawn (cos : ℝ → ℝ) (f : LineFeature ℝ) (p : Point ℝ) :
    (f.distanceWith cos p = ⊤ ↔ f.track.flatten = []) ∧
    (f.distanceWith cos p ≠ ⊤ →
      IsLeast (distances cos p (drawn p) f) (f.distanceWith cos p)) ∧
    (∀ a b, drawn p a b = eastward a b ↔ eastward p a + eastward a b ∈ Ico (-180) 180) ∧
    (∀ a b, drawn p a b ≠ eastward a b → |drawn p a b| = 360 - |eastward a b|) ∧
    f.distanceWith cos p ∈ lowerBounds (distances cos p eastward f) ∧
    ((∀ part ∈ f.track, ∀ piece ∈ Ring.segments part,
        drawn p piece.1 piece.2 = eastward piece.1 piece.2) →
      f.distanceWith cos p ≠ ⊤ →
        IsLeast (distances cos p eastward f) (f.distanceWith cos p)) := by
  have lower : f.distanceWith cos p ∈ lowerBounds (distances cos p eastward f) := by
    rintro d ⟨q, on, rfl⟩
    exact distanceWith_le_shorter on
  refine ⟨distanceWith_eq_top_iff, ?least, fun _ _ => drawn_eq_iff, fun _ _ => abs_drawn, lower,
    ?shorter⟩
  case least =>
    intro finite
    refine ⟨(distanceWith_cases cos f p).resolve_left finite, ?_⟩
    rintro d ⟨q, on, rfl⟩
    exact distanceWith_le on
  case shorter =>
    intro whole finite
    obtain ⟨q, on, e⟩ := (distanceWith_cases cos f p).resolve_left finite
    refine ⟨⟨q, ?_, e⟩, lower⟩
    cases on with
    | vertex hp hv => exact .vertex hp hv
    | @along part a b u hp hs hu =>
      rw [whole part hp _ hs]
      exact .along hp hs hu

section Sample

/-- A line over the antimeridian is at no distance from the point opposite to it, although no place
on it is within eighteen thousand kilometres. -/
theorem far_piece_near :
    (equatorLine (-170) 170).distanceWith Real.cos ⟨0, 0⟩ = 0 ∧
      ∀ q, OnTrack eastward (equatorLine (-170) 170) q →
        18924400 ≤ placeDistance Real.cos ⟨0, 0⟩ q := by
  have west : eastward (⟨0, 0⟩ : Point ℝ) ⟨0, -170⟩ = -170 := by
    rw [eastward_eq 1] <;> norm_num
  have east : eastward (⟨0, 0⟩ : Point ℝ) ⟨0, 170⟩ = 170 := by
    rw [eastward_eq 1] <;> norm_num
  constructor
  · exact distance_equator (by rw [west]; norm_num) (by rw [east]; norm_num)
  · intro q on
    have far : 170 ≤ |eastward ⟨0, 0⟩ q| := by
      cases on with
      | vertex hp hv =>
        obtain rfl := List.mem_singleton.1 hp
        rcases hv with _ | ⟨_, _ | ⟨_, ⟨⟩⟩⟩
        · rw [west]
          norm_num
        · rw [east]
          norm_num
      | @along part a b u hp hs hu =>
        obtain rfl := List.mem_singleton.1 hp
        cases List.mem_singleton.1 hs
        obtain ⟨nonneg, le_one⟩ := hu
        have short : eastward (⟨0, -170⟩ : Point ℝ) ⟨0, 170⟩ = -20 := by
          rw [eastward_eq 2] <;> norm_num
        rw [short]
        set place := alongWay (-20) (⟨0, -170⟩ : Point ℝ) ⟨0, 170⟩ u with place_eq
        obtain ⟨k, turns⟩ := eastward_real (⟨0, 0⟩ : Point ℝ) place
        have lon : place.lon - 0 = -170 - 20 * u := by
          rw [place_eq]
          dsimp only [alongWay]
          ring
        rw [lon] at turns
        -- the piece begins west of the point and ends east of it
        rcases turn_cases (eastward_mem _ _) turns (by linarith) (by linarith) with
          ⟨-, e⟩ | ⟨out, -⟩ | ⟨-, e⟩
        · rw [e, abs_of_neg (by linarith)]
          linarith
        · linarith
        · rw [e, abs_of_pos (by linarith)]
          linarith
    have along_parallel : |eastward ⟨0, 0⟩ q * 111320 * Real.cos (0 * (Real.pi / 180))| ≤
        placeDistance Real.cos ⟨0, 0⟩ q := by
      rw [placeDistance_eq]
      exact Real.abs_le_sqrt (le_add_of_nonneg_right (sq_nonneg _))
    rw [zero_mul, Real.cos_zero, mul_one, abs_mul, abs_of_pos (by norm_num : (0 : ℝ) < 111320)]
      at along_parallel
    linarith

end Sample

end LineFeature

end Whereabouts
