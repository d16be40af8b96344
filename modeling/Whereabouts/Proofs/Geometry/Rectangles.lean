import Whereabouts.Proofs.Geometry.Reals

/-!
# Rectangles on the map

A rectangle lies on the map if it is not inverted and keeps to the ranges of longitudes and
latitudes. Putting it upright and cutting it at the antimeridian loses nothing of it, so that an
index compares such rectangles as they are.

* `Envelope.OnMap.touches_parts`: what touches a rectangle touches one of its parts.
* `Envelope.onMap_bounding?`: the least rectangle around points on the map, which holds them all.
-/

namespace Whereabouts

open LawfulScalar

/-- The laws by which the scalars that are related to themselves are in order. Only the reals are an
instance of them. -/
class OrderedScalar (α : Type) [Scalar α] : Prop extends LawfulScalar α where
  left_self {a b : α} (le : a ≤ b) : a ≤ a
  right_self {a b : α} (le : a ≤ b) : b ≤ b
  le_of_lt {a b : α} (lt : a < b) : a ≤ b
  le_of_self {a b : α} (left : a ≤ a) (right : b ≤ b) (nlt : ¬ a < b) : b ≤ a

open OrderedScalar

instance : OrderedScalar ℝ where
  left_self _ := le_refl _
  right_self _ := le_refl _
  le_of_lt := LT.lt.le
  le_of_self _ _ := not_lt.1

namespace Envelope

variable {α : Type} [Scalar α]

/-- A rectangle that is not inverted, within the ranges of longitudes and latitudes. -/
structure OnMap (e : Envelope α) : Prop where
  west : -180.0 ≤ e.minLon
  lons : e.minLon ≤ e.maxLon
  east : e.maxLon ≤ 180.0
  south : -90.0 ≤ e.minLat
  lats : e.minLat ≤ e.maxLat
  north : e.maxLat ≤ 90.0

variable {e f : Envelope α} {p : Point α}

/-- Envelopes that intersect do so both ways. -/
lemma intersects_comm (touch : e.intersects f = true) : f.intersects e = true := by
  obtain ⟨⟨west, east⟩, south, north⟩ := intersects_iff.1 touch
  exact intersects_iff.2 ⟨⟨east, west⟩, north, south⟩

section Lawful

variable [LawfulScalar α]

/-- A valid point is a rectangle on the map. -/
lemma OnMap.ofPoint (valid : p.isValid = true) : (ofPoint p).OnMap := by
  obtain ⟨⟨lat, lon⟩, ⟨south, north⟩, west, east⟩ := Point.isValid_iff.1 valid
  exact ⟨west, le_self lon, east, south, le_self lat, north⟩

/-- Envelopes with a point in common intersect. -/
lemma intersects_of_contains (he : e.contains p = true) (hf : f.contains p = true) :
    e.intersects f = true := by
  obtain ⟨⟨west, east⟩, south, north⟩ := contains_iff.1 he
  obtain ⟨⟨west', east'⟩, south', north'⟩ := contains_iff.1 hf
  exact intersects_iff.2 ⟨⟨le_trans west east', le_trans west' east⟩, le_trans south north',
    le_trans south' north⟩

end Lawful

variable [OrderedScalar α]

/-- What a rectangle on the map holds is on the map with it. -/
lemma OnMap.of_contains (om : e.OnMap) (inside : e.contains p = true) :
    (Envelope.ofPoint p).OnMap := by
  obtain ⟨⟨west, east⟩, south, north⟩ := contains_iff.1 inside
  exact ⟨le_trans om.west west, right_self west, le_trans east om.east, le_trans om.south south,
    right_self south, le_trans north om.north⟩

/-- Putting rectangles upright parts none that touch. -/
lemma intersects_upright (e_lons : e.minLon ≤ e.maxLon) (e_lats : e.minLat ≤ e.maxLat)
    (f_lons : f.minLon ≤ f.maxLon) (f_lats : f.minLat ≤ f.maxLat) (touch : e.intersects f = true) :
    e.upright.intersects f.upright = true := by
  obtain ⟨⟨west, east⟩, south, north⟩ := intersects_iff.1 touch
  have lower {a b : α} (le : a ≤ b) : lowerOf a b ≤ a := lowerOf_le (left_self le) le
  have upper {a b : α} (le : a ≤ b) : b ≤ upperOf a b := le_upperOf le (right_self le)
  exact intersects_iff.2
    ⟨⟨le_trans (lower e_lons) (le_trans west (upper f_lons)),
      le_trans (lower f_lons) (le_trans east (upper e_lons))⟩,
    le_trans (lower e_lats) (le_trans south (upper f_lats)),
    le_trans (lower f_lats) (le_trans north (upper e_lats))⟩

/-- What touches a rectangle on the map touches one of its parts. -/
lemma OnMap.touches_parts (own : f.OnMap) (om : e.OnMap) (touch : f.intersects e = true) :
    (e.parts.any fun part => f.upright.intersects part.upright) = true := by
  unfold parts
  rw [if_neg (not_lt om.west), if_neg (not_lt om.east)]
  split
  next =>
    -- the whole girdle, of which the rectangle is a piece
    obtain ⟨-, south, north⟩ := intersects_iff.1 touch
    refine List.any_eq_true.2 ⟨_, List.mem_cons_self, ?_⟩
    refine intersects_upright own.lons own.lats ?_ om.lats ?_
    · exact le_trans om.west (le_trans om.lons om.east)
    · have west := le_trans own.west own.lons
      have east := le_trans own.lons own.east
      exact intersects_iff.2 ⟨⟨east, west⟩, south, north⟩
  next =>
    refine List.any_eq_true.2 ⟨_, List.mem_cons_self, ?_⟩
    exact intersects_upright own.lons own.lats om.lons om.lats touch

section Bounding

/-- The lower of two numbers is no greater than the first. -/
lemma lowerOf_le_left {a b : α} (left : a ≤ a) (right : b ≤ b) : lowerOf a b ≤ a := by
  unfold lowerOf
  split
  next => exact left
  next nlt => exact le_of_self left right nlt

/-- The lower of two numbers is no greater than the second. -/
lemma lowerOf_le_right {a b : α} (right : b ≤ b) : lowerOf a b ≤ b := by
  unfold lowerOf
  split
  next lt => exact le_of_lt lt
  next => exact right

/-- The upper of two numbers is no less than the first. -/
lemma left_le_upperOf {a b : α} (left : a ≤ a) (right : b ≤ b) : a ≤ upperOf a b := by
  unfold upperOf
  split
  next => exact left
  next nlt => exact le_of_self right left nlt

/-- The upper of two numbers is no less than the second. -/
lemma right_le_upperOf {a b : α} (right : b ≤ b) : b ≤ upperOf a b := by
  unfold upperOf
  split
  next lt => exact le_of_lt lt
  next => exact right

omit [OrderedScalar α] in
/-- The lower of two numbers is one of them. -/
lemma of_lowerOf {a b : α} {q : α → Prop} (left : q a) (right : q b) : q (lowerOf a b) := by
  unfold lowerOf
  split <;> assumption

omit [OrderedScalar α] in
/-- The upper of two numbers is one of them. -/
lemma of_upperOf {a b : α} {q : α → Prop} (left : q a) (right : q b) : q (upperOf a b) := by
  unfold upperOf
  split <;> assumption

/-- Extended by a point on the map, a rectangle stays on the map and holds the point besides what it
held. -/
lemma OnMap.extend (om : e.OnMap) (own : (Envelope.ofPoint p).OnMap) :
    (e.extend p).OnMap ∧ (e.extend p).contains p = true ∧
      ∀ q : Point α, e.contains q = true → (e.extend p).contains q = true := by
  have west := lowerOf_le_left own.lons (left_self om.lons)
  have west' := lowerOf_le_right (a := p.lon) (left_self om.lons)
  have south := lowerOf_le_left own.lats (left_self om.lats)
  have south' := lowerOf_le_right (a := p.lat) (left_self om.lats)
  have east := left_le_upperOf own.lons (right_self om.lons)
  have east' := right_le_upperOf (a := p.lon) (right_self om.lons)
  have north := left_le_upperOf own.lats (right_self om.lats)
  have north' := right_le_upperOf (a := p.lat) (right_self om.lats)
  refine ⟨⟨?_, le_trans west east, ?_, ?_, le_trans south north, ?_⟩, ?_, fun q inside => ?_⟩
  · exact of_lowerOf (q := fun x => -180.0 ≤ x) own.west om.west
  · exact of_upperOf (q := fun x => x ≤ 180.0) own.east om.east
  · exact of_lowerOf (q := fun x => -90.0 ≤ x) own.south om.south
  · exact of_upperOf (q := fun x => x ≤ 90.0) own.north om.north
  · exact contains_iff.2 ⟨⟨west, east⟩, south, north⟩
  · obtain ⟨⟨left, right⟩, below, above⟩ := contains_iff.1 inside
    exact contains_iff.2 ⟨⟨le_trans west' left, le_trans right east'⟩, le_trans south' below,
      le_trans above north'⟩

/-- Extending a rectangle on the map by points there keeps it on the map; it then holds these
points, and those that it held. -/
lemma OnMap.foldl_extend (om : e.OnMap) {points : List (Point α)}
    (own : ∀ p ∈ points, (Envelope.ofPoint p).OnMap) :
    (points.foldl Envelope.extend e).OnMap ∧
      (∀ p ∈ points, (points.foldl Envelope.extend e).contains p = true) ∧
      ∀ q, e.contains q = true → (points.foldl Envelope.extend e).contains q = true := by
  induction points generalizing e with
  | nil => exact ⟨om, fun _ => nofun, fun _ inside => inside⟩
  | cons p points ih =>
    obtain ⟨om', here, kept⟩ := om.extend (own p List.mem_cons_self)
    obtain ⟨final, all, kept'⟩ := ih om' fun q hq => own q (List.mem_cons_of_mem _ hq)
    refine ⟨final, ?_, fun q inside => kept' q (kept q inside)⟩
    rintro q (_ | ⟨_, hq⟩)
    · exact kept' p here
    · exact all q hq

/-- The least rectangle around points on the map lies on the map and holds all of them. -/
lemma onMap_bounding? {points : List (Point α)}
    (own : ∀ p ∈ points, (Envelope.ofPoint p).OnMap) (eq : bounding? points = some e) :
    e.OnMap ∧ ∀ p ∈ points, e.contains p = true := by
  cases points with
  | nil => cases eq
  | cons first rest =>
    cases eq
    have start := own first List.mem_cons_self
    obtain ⟨final, all, kept⟩ := start.foldl_extend fun q hq => own q (List.mem_cons_of_mem _ hq)
    refine ⟨final, ?_⟩
    rintro q (_ | ⟨_, hq⟩)
    · exact kept first (contains_iff.2 ⟨⟨start.lons, start.lons⟩, start.lats, start.lats⟩)
    · exact all q hq

end Bounding

end Envelope

end Whereabouts
