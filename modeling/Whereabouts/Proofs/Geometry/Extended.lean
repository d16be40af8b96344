import Mathlib.Data.EReal.Inv
import Whereabouts.Proofs.Geometry.Reals
import Whereabouts.Proofs.Store.Index
import Whereabouts.Transit.Stop

/-!
# Extended reals as scalars

The distance to a track without points is infinite, which no real is. On the extended reals it is
what it stands for; everything else is computed there from reals as on the reals.

* `Scalar.Hom`: a map of numbers that keeps the arithmetic and the order.
* `Scalar.Hom.near_line`, `Scalar.Hom.partDistances`: what is computed from images is the image of
  what is computed.
* `extended`: the reals among the extended reals.
-/

namespace Whereabouts

/-- A map of numbers that keeps the arithmetic and the order. Nothing is said of infinity. -/
structure Scalar.Hom {α β : Type} [Scalar α] [Scalar β] (φ : α → β) : Prop where
  inj : Function.Injective φ
  add : ∀ a b, φ (a + b) = φ a + φ b
  sub : ∀ a b, φ (a - b) = φ a - φ b
  mul : ∀ a b, φ (a * b) = φ a * φ b
  div : ∀ a b, φ (a / b) = φ a / φ b
  neg : ∀ a, φ (-a) = -φ a
  literal : ∀ m s e, φ (OfScientific.ofScientific m s e) = OfScientific.ofScientific m s e
  le_iff : ∀ a b, φ a ≤ φ b ↔ a ≤ b
  lt_iff : ∀ a b, φ a < φ b ↔ a < b
  beq : ∀ a b, (φ a == φ b) = (a == b)
  isFinite : ∀ a, Scalar.isFinite (φ a) = Scalar.isFinite a
  pi : φ Scalar.pi = Scalar.pi
  sqrt : ∀ a, φ (Scalar.sqrt a) = Scalar.sqrt (φ a)
  cos : ∀ a, φ (Scalar.cos a) = Scalar.cos (φ a)
  remainder : ∀ a b, φ (Scalar.remainder a b) = Scalar.remainder (φ a) (φ b)

section Maps

variable {α β : Type} (φ : α → β)

def Point.map (p : Point α) : Point β := ⟨φ p.lat, φ p.lon⟩

def Envelope.map (e : Envelope α) : Envelope β := ⟨φ e.minLon, φ e.minLat, φ e.maxLon, φ e.maxLat⟩

def LineFeature.map (f : LineFeature α) : LineFeature β :=
  ⟨f.line, f.track.map fun part => part.map (Point.map φ)⟩

end Maps

/-- The pieces between images of points are the images of the pieces. -/
lemma Ring.segments_map {α β : Type} (f : Point α → Point β) (points : List (Point α)) :
    segments (points.map f) = (segments points).map (Prod.map f f) := by
  unfold segments
  rw [← List.map_tail, List.zip_map]

namespace LineFeature

variable {α : Type} [Scalar α]

/-- The distance in metres from a point to a piece of a track. -/
def pieceDistance (origin : Point α) (piece : Point α × Point α) : α :=
  Scalar.sqrt (squaredDistance (project origin piece.1) (project origin piece.2))

/-- The distances to a part of a track are those to its pieces. -/
lemma partDistances_eq_map (origin a b : Point α) (rest : List (Point α)) :
    partDistances origin (a :: b :: rest) =
      (Ring.segments (a :: b :: rest)).map (pieceDistance origin) := rfl

end LineFeature

namespace Scalar.Hom

variable {α β : Type} [Scalar α] [Scalar β] {φ : α → β} (h : Hom φ)

include h

/-- Degrees are turned into radians before or after mapping. -/
lemma radians (a : α) : φ (Scalar.radians a) = Scalar.radians (φ a) := by
  unfold Scalar.radians
  rw [h.mul, h.div, h.pi, h.literal]

/-- The smaller of two images is the image of the smaller. -/
lemma least (a b : α) : φ (Scalar.least a b) = Scalar.least (φ a) (φ b) := by
  unfold Scalar.least
  simp only [Bool.or_eq_true, decide_eq_true_eq, h.lt_iff, h.beq]
  split_ifs <;> rfl

/-- The image of a point is valid where the point is. -/
lemma isValid (p : Point α) : (p.map φ).isValid = p.isValid := by
  rw [Bool.eq_iff_iff, Point.isValid_iff, Point.isValid_iff]
  simp only [Point.map, h.isFinite, ← h.literal, ← h.neg, h.le_iff]

section Envelopes

open Envelope

/-- A square around an image reaches as far to the east as the image of a square. -/
lemma lonReach (lat metres : α) :
    φ (lonReach lat metres) = Envelope.lonReach (φ lat) (φ metres) := by
  unfold Envelope.lonReach metresPerDegree
  simp only [← h.literal, ← h.radians, ← h.cos, ← h.mul, ← h.div, h.lt_iff, ← h.least]
  split_ifs <;> rfl

/-- The square around an image is the image of the square. -/
lemma aroundMetres (p : Point α) (metres : α) :
    (aroundMetres p metres).map φ = Envelope.aroundMetres (p.map φ) (φ metres) := by
  unfold Envelope.aroundMetres reaching metresPerDegree
  simp only [Envelope.map, Point.map, h.sub, h.add, h.lonReach, h.div, h.literal]

/-- The image of an envelope is cut at the antimeridian where the envelope is. -/
lemma parts (e : Envelope α) : (e.map φ).parts = e.parts.map (Envelope.map φ) := by
  unfold Envelope.parts
  simp only [Envelope.map, ← h.literal, ← h.neg, ← h.sub, ← h.add, h.le_iff, h.lt_iff]
  split_ifs <;> rfl

/-- The image of an envelope is put upright by the same exchanges. -/
lemma upright (e : Envelope α) : (e.map φ).upright = e.upright.map φ := by
  have lower (a b : α) : lowerOf (φ a) (φ b) = φ (lowerOf a b) := by
    unfold lowerOf
    simp only [h.lt_iff]
    split_ifs <;> rfl
  have upper (a b : α) : upperOf (φ a) (φ b) = φ (upperOf a b) := by
    unfold upperOf
    simp only [h.lt_iff]
    split_ifs <;> rfl
  simp only [Envelope.upright, Envelope.map, lower, upper]

/-- The image of an envelope holds the images of the points that the envelope holds. -/
lemma contains (e : Envelope α) (p : Point α) : (e.map φ).contains (p.map φ) = e.contains p := by
  rw [Bool.eq_iff_iff, contains_iff, contains_iff]
  simp only [Envelope.map, Point.map, h.le_iff]

/-- The image of an envelope covers the images of the points that the envelope covers. -/
lemma covers (e : Envelope α) (p : Point α) : (e.map φ).covers (p.map φ) = e.covers p := by
  unfold Envelope.covers
  rw [h.parts, List.any_map]
  simp only [Function.comp_def, h.upright, h.contains]

/-- Images of envelopes intersect where the envelopes do. -/
lemma intersects (e f : Envelope α) : (e.map φ).intersects (f.map φ) = e.intersects f := by
  rw [Bool.eq_iff_iff, intersects_iff, intersects_iff]
  simp only [Envelope.map, h.le_iff]

/-- The image of an envelope is extended by an image as the envelope is by the point. -/
lemma extend (e : Envelope α) (p : Point α) : (e.map φ).extend (p.map φ) = (e.extend p).map φ := by
  simp only [Envelope.extend, Envelope.map, Point.map, h.lt_iff, apply_ite φ]

/-- The bounds of images are the image of the bounds. -/
lemma bounding? (points : List (Point α)) :
    bounding? (points.map (Point.map φ)) = (Envelope.bounding? points).map (Envelope.map φ) := by
  cases points with
  | nil => rfl
  | cons first rest =>
    have grows (e : Envelope α) : (rest.map (Point.map φ)).foldl Envelope.extend (e.map φ) =
        (rest.foldl Envelope.extend e).map φ := by
      induction rest generalizing e with
      | nil => rfl
      | cons p rest ih => rw [List.map_cons, List.foldl_cons, h.extend, ih, List.foldl_cons]
    exact congrArg some (grows (ofPoint first))

end Envelopes

section Lines

/-- A line is near an envelope just where its image is near the image. -/
lemma near_line (bound : Envelope α) (f : LineFeature α) :
    FeatureIndex.near (bound.map φ) (f.map φ) = FeatureIndex.near bound f := by
  have own : Feature.envelope? (α := β) (f.map φ) =
      (Feature.envelope? (α := α) f).map (Envelope.map φ) := by
    have points : (f.map φ).track.flatten = f.track.flatten.map (Point.map φ) :=
      List.map_flatten.symm
    show Envelope.bounding? (f.map φ).track.flatten = _
    rw [points, h.bounding?]
    rfl
  unfold FeatureIndex.near
  rw [own, h.parts, Option.any_map]
  simp only [Function.comp_def, List.any_map, h.upright, h.intersects]

open LineFeature

/-- An image is projected around an image to the image of the projection. -/
lemma project (origin p : Point α) :
    project (origin.map φ) (p.map φ) = Prod.map φ φ (LineFeature.project origin p) := by
  unfold LineFeature.project Envelope.metresPerDegree
  simp only [Prod.map, Point.map, h.mul, h.sub, h.add, h.remainder, h.cos, h.radians, h.literal]

/-- The square of a length is mapped to that of the image. -/
lemma squaredNorm (p : α × α) : φ (squaredNorm p) = LineFeature.squaredNorm (Prod.map φ φ p) := by
  unfold LineFeature.squaredNorm
  rw [h.add, h.mul, h.mul]
  rfl

/-- The square of a distance is mapped to that of the images. -/
lemma squaredDistance (a b : α × α) :
    φ (squaredDistance a b) = LineFeature.squaredDistance (Prod.map φ φ a) (Prod.map φ φ b) := by
  unfold LineFeature.squaredDistance
  simp only [Prod.map, Bool.and_eq_true, decide_eq_true_eq, ← h.literal, ← h.sub, ← h.mul, ← h.add,
    ← h.div, h.lt_iff, h.le_iff]
  split_ifs <;> simp only [h.squaredNorm, Prod.map, h.sub]

/-- The distance to a piece of a track is mapped to that between the images. -/
lemma pieceDistance (origin : Point α) (piece : Point α × Point α) :
    φ (pieceDistance origin piece) =
      LineFeature.pieceDistance (origin.map φ) (Prod.map (Point.map φ) (Point.map φ) piece) := by
  unfold LineFeature.pieceDistance
  rw [h.sqrt, h.squaredDistance, ← h.project, ← h.project]
  rfl

/-- The distances to the pieces of an image are the images of the distances to the pieces. -/
lemma partDistances (origin : Point α) (part : List (Point α)) :
    partDistances (origin.map φ) (part.map (Point.map φ)) =
      (LineFeature.partDistances origin part).map φ := by
  rcases part with _ | ⟨a, _ | ⟨b, rest⟩⟩
  · rfl
  · show [_] = [φ (Scalar.sqrt _)]
    rw [h.sqrt, h.squaredNorm, ← h.project]
  · rw [List.map_cons, List.map_cons, partDistances_eq_map, partDistances_eq_map, ← List.map_cons,
      ← List.map_cons, Ring.segments_map, List.map_map, List.map_map]
    exact List.map_congr_left fun piece _ => (h.pieceDistance origin piece).symm

end Lines

end Scalar.Hom

section Extended

open Classical in
noncomputable instance : Scalar EReal where
  ofScientific m s e := ((OfScientific.ofScientific m s e : ℝ) : EReal)
  decLe _ _ := inferInstance
  decLt _ _ := inferInstance
  beq a b := decide (a = b)
  rank := compare
  isFinite a := decide (a ≠ ⊤ ∧ a ≠ ⊥)
  infinity := ⊤
  pi := (Real.pi : ℝ)
  sqrt a := if a = ⊤ then ⊤ else (Real.sqrt a.toReal : ℝ)
  sin a := (Real.sin a.toReal : ℝ)
  cos a := (Real.cos a.toReal : ℝ)
  asin a := (Real.arcsin a.toReal : ℝ)
  remainder a b := (Scalar.remainder a.toReal b.toReal : ℝ)
  turn a b c :=
    let real (p : EReal × EReal) : ℝ × ℝ := (p.1.toReal, p.2.toReal)
    Scalar.turn (real a) (real b) (real c)

instance : Std.TransCmp (Scalar.rank (α := EReal)) :=
  inferInstanceAs (Std.TransCmp (compare : EReal → EReal → Ordering))

/-- On the extended reals a polygon is measured as on the reals. -/
noncomputable instance : Measured EReal where
  polygonArea polygon :=
    let ring (points : List (Point EReal)) : List (Point ℝ) := points.map (Point.map EReal.toReal)
    (Measured.polygonArea (⟨ring polygon.exterior, polygon.holes.map ring⟩ : Polygon ℝ) : ℝ)

/-- The reals among the extended reals. -/
lemma extended : Scalar.Hom ((↑) : ℝ → EReal) where
  inj := EReal.coe_injective
  add := EReal.coe_add
  sub := EReal.coe_sub
  mul := EReal.coe_mul
  div a b := by
    show ((a / b : ℝ) : EReal) = (a : EReal) * (b : EReal)⁻¹
    rw [div_eq_mul_inv, EReal.coe_mul, EReal.coe_inv]
  neg := EReal.coe_neg
  literal _ _ _ := rfl
  le_iff _ _ := EReal.coe_le_coe_iff
  lt_iff _ _ := EReal.coe_lt_coe_iff
  beq a b := decide_eq_decide.2 EReal.coe_eq_coe_iff
  isFinite a := decide_eq_true ⟨EReal.coe_ne_top a, EReal.coe_ne_bot a⟩
  pi := rfl
  sqrt a := (if_neg (EReal.coe_ne_top a)).symm
  cos _ := rfl
  remainder _ _ := rfl

/-- The distance of two real points is the same among the extended reals. -/
lemma Point.distance_extended (p q : Point ℝ) :
    (p.map ((↑) : ℝ → EReal)).distance (q.map (↑)) = (p.distance q : ℝ) := by
  have sin (x : ℝ) : Scalar.sin (x : EReal) = (Scalar.sin x : ℝ) := rfl
  have asin (x : ℝ) : Scalar.asin (x : EReal) = (Scalar.asin x : ℝ) := rfl
  unfold distance haversine earthRadius Scalar.square
  simp only [Point.map, ← extended.literal, ← extended.sub, ← extended.radians, ← extended.div, sin,
    ← extended.cos, ← extended.mul, ← extended.add, ← extended.sqrt, asin]

end Extended

end Whereabouts
