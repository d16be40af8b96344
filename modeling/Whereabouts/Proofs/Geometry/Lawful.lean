import Mathlib.Tactic.Lemma
import Mathlib.Tactic.SplitIfs
import Mathlib.Tactic.Tauto
import Whereabouts.Geometry.Binary64
import Whereabouts.Query.Predicate

/-!
# The order of scalars

The laws that the proofs use of the numbers and of their order. They are proved of the reals alone.
They ask nothing of a rounding but that it keeps the order, and leave out what a NaN or an infinity
would break; that doubles obey them is not proved.

* `Envelope.contains_upright`: putting an envelope upright loses no point.
* `Envelope.narrow_around`: the square around a point narrows to the point.
-/

namespace Whereabouts

/-- The laws of the order of scalars, of which only the reals are an instance. A scalar that is
related to nothing is left out by them, and finiteness is asked for where an infinity would break a
law. -/
class LawfulScalar (α : Type) [Scalar α] : Prop where
  le_self {a : α} (finite : Scalar.isFinite a = true) : a ≤ a
  le_trans {a b c : α} (ab : a ≤ b) (bc : b ≤ c) : a ≤ c
  not_lt {a b : α} (le : a ≤ b) : ¬ b < a
  le_of_not_lt {a b : α} (le : a ≤ b) (nlt : ¬ a < b) : b ≤ a
  beq_self {a : α} (le : a ≤ a) : (a == a) = true
  sub_le {a b : α} (finite : Scalar.isFinite a = true) (nonneg : 0.0 ≤ b) : a - b ≤ a
  le_add {a b : α} (finite : Scalar.isFinite a = true) (nonneg : 0.0 ≤ b) : a ≤ a + b
  sub_self_le {a : α} (finite : Scalar.isFinite a = true) : a - a ≤ 0.0
  zero_le_tenth : (0.0 : α) ≤ 0.1
  zero_lt_circle : (0.0 : α) < 360.0

open LawfulScalar

/-- Doubles are sorted by a key. -/
instance : Std.TransCmp (Scalar.rank (α := Float)) :=
  inferInstanceAs (Std.TransCmp (compareOn Geometry.rankKey))

variable {α : Type} [Scalar α]

/-- What validity says of the coordinates. -/
lemma Point.isValid_iff {p : Point α} : p.isValid = true ↔
    (Scalar.isFinite p.lat = true ∧ Scalar.isFinite p.lon = true) ∧
      (-90.0 ≤ p.lat ∧ p.lat ≤ 90.0) ∧ -180.0 ≤ p.lon ∧ p.lon ≤ 180.0 := by
  simp only [Point.isValid, Bool.and_eq_true, decide_eq_true_eq]
  tauto

namespace Scalar

variable [LawfulScalar α] {a b : α}

/-- The greater of two numbers is the one that the other is no greater than. -/
lemma greatest_eq_right (le : a ≤ b) (self : b ≤ b) : greatest a b = b := by
  unfold greatest
  rw [if_neg]
  simp [not_lt le, beq_self self]

/-- The smaller of two numbers is the one that is no greater than the other. -/
lemma least_eq_right (le : b ≤ a) (self : b ≤ b) : least a b = b := by
  unfold least
  rw [if_neg]
  simp [not_lt le, beq_self self]

end Scalar

namespace Envelope

/-- Whether one of the parts of an envelope holds a point. -/
def covers (e : Envelope α) (p : Point α) : Bool := e.parts.any fun part => part.upright.contains p

variable {e f : Envelope α} {p : Point α}

/-- What it is to contain a point. -/
lemma contains_iff : e.contains p = true ↔
    (e.minLon ≤ p.lon ∧ p.lon ≤ e.maxLon) ∧ e.minLat ≤ p.lat ∧ p.lat ≤ e.maxLat := by
  simp only [contains, Bool.and_eq_true, decide_eq_true_eq]
  tauto

/-- Envelopes intersect where neither lies beside the other. -/
lemma intersects_iff : e.intersects f = true ↔
    (e.minLon ≤ f.maxLon ∧ f.minLon ≤ e.maxLon) ∧ e.minLat ≤ f.maxLat ∧ f.minLat ≤ e.maxLat := by
  simp only [intersects, Bool.and_eq_true, decide_eq_true_eq]
  tauto

/-- The lower of two equal bounds is this bound. -/
lemma lowerOf_self (a : α) : lowerOf a a = a := ite_self a

/-- The upper of two equal bounds is this bound. -/
lemma upperOf_self (a : α) : upperOf a a = a := ite_self a

/-- A single point stands upright. -/
lemma upright_ofPoint : (ofPoint p).upright = ofPoint p := by
  simp only [upright, ofPoint, lowerOf_self, upperOf_self]

/-- To touch a single point is to contain it. -/
lemma intersects_ofPoint : e.intersects (ofPoint p) = e.contains p := by
  rw [Bool.eq_iff_iff, intersects_iff, contains_iff]
  rfl

/-- An envelope is cut along meridians only. -/
lemma lat_of_mem_parts {part : Envelope α} (mem : part ∈ e.parts) :
    part.minLat = e.minLat ∧ part.maxLat = e.maxLat := by
  unfold parts at mem
  split_ifs at mem <;> simp only [List.mem_cons, List.not_mem_nil, or_false] at mem
  · rw [mem]
    exact ⟨rfl, rfl⟩
  · rcases mem with rfl | rfl <;> exact ⟨rfl, rfl⟩
  · rcases mem with rfl | rfl <;> exact ⟨rfl, rfl⟩
  · rw [mem]
    exact ⟨rfl, rfl⟩

/-- The envelope of a point intersects those that contain the point. -/
lemma ofPoint_intersects : (ofPoint p).intersects e = e.contains p := by
  rw [Bool.eq_iff_iff, intersects_iff, contains_iff]
  exact and_congr and_comm and_comm

variable [LawfulScalar α]

/-- The lower of two bounds lies below what lies between them. -/
lemma lowerOf_le {a b c : α} (ac : a ≤ c) (cb : c ≤ b) : lowerOf a b ≤ c := by
  unfold lowerOf
  split
  next => exact ac
  next nlt => exact le_trans (le_of_not_lt (le_trans ac cb) nlt) ac

/-- The upper of two bounds lies above what lies between them. -/
lemma le_upperOf {a b c : α} (ac : a ≤ c) (cb : c ≤ b) : c ≤ upperOf a b := by
  unfold upperOf
  split
  next lt => exact absurd lt (not_lt (le_trans ac cb))
  next => exact cb

/-- An envelope that contains a point contains it when it is put upright. -/
lemma contains_upright (h : e.contains p = true) : e.upright.contains p = true := by
  obtain ⟨⟨west, east⟩, south, north⟩ := contains_iff.1 h
  exact contains_iff.2 ⟨⟨lowerOf_le west east, le_upperOf west east⟩, lowerOf_le south north,
    le_upperOf south north⟩

/-- An envelope covers what one of its parts contains. -/
lemma covers_of_mem {part : Envelope α} (mem : part ∈ e.parts) (h : part.contains p = true) :
    e.covers p = true :=
  List.any_eq_true.2 ⟨part, mem, contains_upright h⟩

/-- What an envelope covers is not north of it. -/
lemma lat_le_of_covers (le : e.minLat ≤ e.maxLat) (h : e.covers p = true) : p.lat ≤ e.maxLat := by
  obtain ⟨part, mem, inside⟩ := List.any_eq_true.1 h
  obtain ⟨south, north⟩ := lat_of_mem_parts mem
  have upper : part.upright.maxLat = e.maxLat := by
    show upperOf part.minLat part.maxLat = _
    rw [south, north]
    exact if_neg (not_lt le)
  rw [← upper]
  exact (contains_iff.1 inside).2.2

/-- A valid point is a rectangle of its own. -/
lemma parts_ofPoint (valid : p.isValid = true) : (ofPoint p).parts = [ofPoint p] := by
  obtain ⟨⟨-, finite⟩, -, west, east⟩ := Point.isValid_iff.1 valid
  have narrow : ¬ (360.0 : α) ≤ p.lon - p.lon := fun wide =>
    not_lt (le_trans wide (sub_self_le finite)) zero_lt_circle
  unfold parts ofPoint
  rw [if_neg narrow, if_neg (not_lt west), if_neg (not_lt east)]

/-- The square around a valid point narrows to the point. -/
lemma narrow_around {degrees : α} (nonneg : 0.0 ≤ degrees) (valid : p.isValid = true) :
    Predicate.narrow (around p degrees) (ofPoint p) = ofPoint p := by
  obtain ⟨⟨lat, lon⟩, -⟩ := Point.isValid_iff.1 valid
  have inside : (around p degrees).contains p = true := contains_iff.2
    ⟨⟨sub_le lon nonneg, le_add lon nonneg⟩, sub_le lat nonneg, le_add lat nonneg⟩
  obtain ⟨⟨west, east⟩, south, north⟩ := contains_iff.1 inside
  unfold Predicate.narrow intersection?
  rw [intersects_ofPoint, if_pos inside]
  show Envelope.mk _ _ _ _ = Envelope.mk _ _ _ _
  dsimp only [ofPoint]
  rw [Scalar.greatest_eq_right west (le_self lon), Scalar.greatest_eq_right south (le_self lat),
    Scalar.least_eq_right east (le_self lon), Scalar.least_eq_right north (le_self lat)]

/-- What contains a point touches every square around it. -/
lemma intersects_around {degrees : α} (nonneg : 0.0 ≤ degrees) (valid : p.isValid = true)
    (h : e.contains p = true) : e.intersects (around p degrees) = true := by
  obtain ⟨⟨lat, lon⟩, -⟩ := Point.isValid_iff.1 valid
  obtain ⟨⟨west, east⟩, south, north⟩ := contains_iff.1 h
  exact intersects_iff.2 ⟨⟨le_trans west (le_add lon nonneg), le_trans (sub_le lon nonneg) east⟩,
    le_trans south (le_add lat nonneg), le_trans (sub_le lat nonneg) north⟩

end Envelope

end Whereabouts
