import Mathlib
import Whereabouts.Proofs.Geometry.Lawful

/-!
# The order of doubles

Doubles that are numbers stand on the rungs of a ladder, both zeros on the same rung; the numbers are
compared by their rungs, and a NaN is related to nothing. The total order by which lists are sorted
goes up the same ladder, but puts negative zero before zero.

* `RankedScalar`: what sorting by the total order has to do with comparing numbers.
* `Geometry.compare_unpacked`: unpacked doubles are compared by their rungs.
* `Geometry.unpacked_rung`: the rung of a double is read off its bits.
* `Geometry.lt_iff_rung`, `Geometry.beq_iff_rung`: doubles are compared by their rungs.
* `Geometry.rank_eq_of_beq`: where the total order does not tell equal numbers apart.
-/

namespace Whereabouts

/-- Numbers whose order and total order go together. What is equal to itself is a number; nothing
else is related to anything by the order. -/
class RankedScalar (α : Type) [Scalar α] : Prop
    extends Std.TransCmp (Scalar.rank (α := α)), PartialEquivBEq α where
  lt_irrefl (a : α) : ¬ a < a
  lt_trans {a b c : α} (ab : a < b) (bc : b < c) : a < c
  lt_of_lt_of_beq {a b c : α} (ab : a < b) (bc : (b == c) = true) : a < c
  lt_of_beq_of_lt {a b c : α} (ab : (a == b) = true) (bc : b < c) : a < c
  trichotomy {a b : α} (ha : (a == a) = true) (hb : (b == b) = true) :
    a < b ∨ (a == b) = true ∨ b < a
  rank_eq_lt {a b : α} (ab : a < b) : Scalar.rank a b = .lt

namespace Geometry

open Float.Model (UnpackedFloat Format)
open Float.Model.UnpackedFloat (Sign)

section Unpacked

/-- So many rungs up for a positive sign and down for a negative one. -/
def rungs : Sign → Int → Int
  | .positive, n => n
  | .negative, n => -n

/-- The rung of an unpacked double: the mantissas of one exponent follow each other, and so do the
exponents. -/
def unpackedRung : UnpackedFloat → Int
  | .infinity s => rungs s (2047 * 2 ^ 52)
  | .notANumber => 0
  | .zero _ => 0
  | .finite s m e _ => rungs s ((e + 1074) * 2 ^ 52 + m)

/-- A mantissa is as long as there is room for, unless the exponent is the least one. -/
def Canonical (m : Nat) (e : Int) : Prop :=
  m < 2 ^ 53 ∧ -1074 ≤ e ∧ e < 972 ∧ (e = -1074 ∨ 2 ^ 52 ≤ m)

/-- An unpacked double that is a number, with a canonical mantissa where it is finite. -/
def IsNumber : UnpackedFloat → Prop
  | .notANumber => False
  | .finite _ m e _ => Canonical m e
  | _ => True

/-- Negation turns a comparison round. -/
lemma compare_neg (a b : Int) : compare (-a) (-b) = (compare a b).swap := by
  rw [Int.compare_swap]
  rcases Int.lt_trichotomy a b with lt | rfl | gt
  · rw [Int.compare_eq_gt.2 lt, Int.compare_eq_gt.2 (Int.neg_lt_neg lt)]
  · rw [Int.compare_eq_eq.2 rfl, Int.compare_eq_eq.2 rfl]
  · rw [Int.compare_eq_lt.2 gt, Int.compare_eq_lt.2 (Int.neg_lt_neg gt)]

/-- Of canonical mantissas that with the greater exponent is the greater number. -/
lemma compare_canonical {m n : Nat} {e f : Int} (hm : Canonical m e) (hn : Canonical n f) :
    (compare e f).then (compare m n) =
      compare ((e + 1074) * 2 ^ 52 + m) ((f + 1074) * 2 ^ 52 + n) := by
  obtain ⟨m_lt, e_ge, -, m_ge⟩ := hm
  obtain ⟨n_lt, f_ge, -, n_ge⟩ := hn
  rcases Int.lt_trichotomy e f with lt | rfl | gt
  · rw [Int.compare_eq_lt.2 lt, Int.compare_eq_lt.2 (by omega)]
    rfl
  · rw [Int.compare_eq_eq.2 rfl]
    rcases Nat.lt_trichotomy m n with lt | rfl | gt
    · rw [Nat.compare_eq_lt.2 lt, Int.compare_eq_lt.2 (by omega)]
      rfl
    · rw [Nat.compare_eq_eq.2 rfl, Int.compare_eq_eq.2 rfl]
      rfl
    · rw [Nat.compare_eq_gt.2 gt, Int.compare_eq_gt.2 (by omega)]
      rfl
  · rw [Int.compare_eq_gt.2 gt, Int.compare_eq_gt.2 (by omega)]
    rfl

/-- Finite numbers other than zero stand between zero and infinity. -/
lemma finite_bounds {m : Nat} {e : Int} (canonical : Canonical m e) (pos : 0 < m) :
    0 < (e + 1074) * 2 ^ 52 + m ∧ (e + 1074) * 2 ^ 52 + m < 2047 * 2 ^ 52 := by
  obtain ⟨m_lt, e_ge, e_lt, -⟩ := canonical
  omega

/-- Unpacked doubles that are numbers are compared by their rungs. -/
lemma compare_unpacked {u v : UnpackedFloat} (hu : IsNumber u) (hv : IsNumber v) :
    u.compare v = some (compare (unpackedRung u) (unpackedRung v)) := by
  have lt {a b : Int} (h : a < b) : some Ordering.lt = some (compare a b) := by
    rw [Int.compare_eq_lt.2 h]
  have gt {a b : Int} (h : b < a) : some Ordering.gt = some (compare a b) := by
    rw [Int.compare_eq_gt.2 h]
  -- only two finite numbers of one sign have their rungs compared; otherwise the kinds decide
  cases u with
  | notANumber => exact hu.elim
  | infinity s =>
    cases v with
    | notANumber => exact hv.elim
    | infinity t => cases s <;> cases t <;> rfl
    | zero t => cases s <;> rfl
    | finite t n f pos =>
      have := finite_bounds hv pos
      cases s with
      | positive => cases t <;> exact gt (by dsimp only [unpackedRung, rungs]; omega)
      | negative => cases t <;> exact lt (by dsimp only [unpackedRung, rungs]; omega)
  | zero s =>
    cases v with
    | notANumber => exact hv.elim
    | infinity t => cases t <;> rfl
    | zero t => rfl
    | finite t n f pos =>
      have := finite_bounds hv pos
      cases t with
      | positive => exact lt (by dsimp only [unpackedRung, rungs]; omega)
      | negative => exact gt (by dsimp only [unpackedRung, rungs]; omega)
  | finite s m e pos =>
    have := finite_bounds hu pos
    cases v with
    | notANumber => exact hv.elim
    | infinity t =>
      cases t with
      | positive => cases s <;> exact lt (by dsimp only [unpackedRung, rungs]; omega)
      | negative => cases s <;> exact gt (by dsimp only [unpackedRung, rungs]; omega)
    | zero t =>
      cases s with
      | positive => exact gt (by dsimp only [unpackedRung, rungs]; omega)
      | negative => exact lt (by dsimp only [unpackedRung, rungs]; omega)
    | finite t n f pos' =>
      have := finite_bounds hv pos'
      cases s <;> cases t
      · exact congrArg some ((congrArg Ordering.swap (compare_canonical hu hv)).trans
          (compare_neg _ _).symm)
      · exact lt (by dsimp only [unpackedRung, rungs]; omega)
      · exact gt (by dsimp only [unpackedRung, rungs]; omega)
      · exact congrArg some (compare_canonical hu hv)

end Unpacked

section Bits

variable (b : BitVec 64)

/-- The mantissa of a double is the lowest 52 of its bits. -/
lemma toNat_mantissa : (@UnpackedFloat.unpackMantissa .binary64 b).toNat =
    b.toNat % 2 ^ 52 := by
  simp [UnpackedFloat.unpackMantissa]

/-- The exponent of a double is the 11 bits above its mantissa. -/
lemma toNat_exponent : (@UnpackedFloat.unpackExponent .binary64 b).toNat =
    b.toNat / 2 ^ 52 % 2 ^ 11 := by
  simp [UnpackedFloat.unpackExponent, Nat.shiftRight_eq_div_pow]

/-- The implicit bit stands above the mantissa. -/
lemma toNat_implicit : (1#1 ++ @UnpackedFloat.unpackMantissa .binary64 b).toNat =
    2 ^ 52 + b.toNat % 2 ^ 52 := by
  rw [BitVec.toNat_append, ← Nat.shiftLeft_add_eq_or_of_lt (BitVec.isLt _), toNat_mantissa]
  rfl

/-- The sign of a double is the highest of its bits. -/
lemma sign_of_bits : Sign.ofBitVec (@UnpackedFloat.unpackSign .binary64 b) =
    if b.toNat < 2 ^ 63 then .positive else .negative := by
  have lt : b.toNat < 2 ^ 64 := b.isLt
  have bit : (@UnpackedFloat.unpackSign .binary64 b).toNat = b.toNat / 2 ^ 63 := by
    simp [UnpackedFloat.unpackSign, Nat.shiftRight_eq_div_pow]
    omega
  unfold Sign.ofBitVec
  congr 1
  rw [← BitVec.toNat_inj, bit]
  simp

/-- The rung of a number is the number that its bits without the sign stand for. -/
lemma unpack_cases : UnpackedFloat.unpack .binary64 b = .notANumber ∨
    IsNumber (UnpackedFloat.unpack .binary64 b) ∧
      unpackedRung (UnpackedFloat.unpack .binary64 b) =
        rungs (if b.toNat < 2 ^ 63 then .positive else .negative) (b.toNat % 2 ^ 63 : Nat) := by
  have lt : b.toNat < 2 ^ 64 := b.isLt
  have mantissa := toNat_mantissa b
  have exponent := toNat_exponent b
  have implicit := toNat_implicit b
  have bias : (Format.binary64.exponentBias : Int) = 1023 := rfl
  unfold UnpackedFloat.unpack
  dsimp only
  rw [sign_of_bits]
  generalize (if b.toNat < 2 ^ 63 then Sign.positive else .negative) = s
  split_ifs with top none bottom none
  · -- an infinity
    have e := exponent.symm.trans (congrArg BitVec.toNat top)
    have m := mantissa.symm.trans (congrArg BitVec.toNat none)
    refine .inr ⟨trivial, congrArg (rungs s) ?_⟩
    simp at e m
    omega
  · exact .inl rfl
  · -- a zero
    have e := exponent.symm.trans (congrArg BitVec.toNat bottom)
    have m := mantissa.symm.trans (congrArg BitVec.toNat none)
    have nothing : b.toNat % 2 ^ 63 = 0 := by
      simp at e m
      omega
    rw [nothing]
    exact .inr ⟨trivial, by cases s <;> rfl⟩
  · -- a number below the normal ones
    have e := exponent.symm.trans (congrArg BitVec.toNat bottom)
    simp at e
    refine .inr ⟨⟨?_, ?_, ?_, ?_⟩, congrArg (rungs s) ?_⟩ <;>
      simp only [mantissa, exponent, bias] <;> omega
  · -- a normal number
    have e : b.toNat / 2 ^ 52 % 2 ^ 11 ≠ 0 := fun h =>
      bottom (BitVec.toNat_inj.1 (exponent.trans h))
    have e' : b.toNat / 2 ^ 52 % 2 ^ 11 ≠ 2047 := fun h =>
      top (BitVec.toNat_inj.1 (exponent.trans h))
    refine .inr ⟨⟨?_, ?_, ?_, ?_⟩, congrArg (rungs s) ?_⟩ <;>
      simp only [implicit, exponent, bias] <;> omega

end Bits

/-- The rung of a double: its place in the total order, but for the two zeros. -/
def rung (x : Float) : Int :=
  let bits := x.toBits.toNat
  if bits < Nat.pow 2 63 then bits else -((bits - Nat.pow 2 63 : Nat) : Int)

/-- The key of a double is its rung, and one below it for the negative ones. -/
lemma rankKey_cases (x : Float) :
    0 ≤ rung x ∧ rankKey x = rung x ∨ rung x ≤ 0 ∧ rankKey x = rung x - 1 := by
  unfold rankKey rung
  dsimp only
  split_ifs <;> omega

/-- A double is a NaN, or a number whose rung is that of its unpacked form. -/
lemma unpacked_rung (x : Float) : x.toModel.unpack = .notANumber ∨
    IsNumber x.toModel.unpack ∧ unpackedRung x.toModel.unpack = rung x := by
  have lt : x.toModel.toBits.toNat < 2 ^ 64 := x.toModel.toBits.toNat_lt
  refine (unpack_cases x.toModel.toBits.toBitVec).imp_right (And.imp_right fun e => e.trans ?_)
  show rungs (if x.toModel.toBits.toNat < 2 ^ 63 then .positive else .negative)
      (x.toModel.toBits.toNat % 2 ^ 63 : Nat) =
    if x.toModel.toBits.toNat < 2 ^ 63 then (x.toModel.toBits.toNat : Int)
      else -((x.toModel.toBits.toNat - 2 ^ 63 : Nat) : Int)
  split_ifs <;> dsimp only [rungs] <;> omega

/-- A double is a NaN where it stands for no number. -/
lemma isNaN_iff {x : Float} : x.isNaN = true ↔ x.toModel.unpack = .notANumber :=
  UnpackedFloat.isNaN_iff

variable {x y z : Float}

/-- A NaN cannot be compared. -/
lemma compare_none (h : x.isNaN = true ∨ y.isNaN = true) :
    x.toModel.unpack.compare y.toModel.unpack = none := by
  rw [isNaN_iff, isNaN_iff] at h
  rcases h with e | e
  · rw [e]
    rfl
  · rw [e]
    cases x.toModel.unpack <;> rfl

/-- Doubles that are no NaN are compared by their rungs. -/
lemma compare_some (hx : x.isNaN = false) (hy : y.isNaN = false) :
    x.toModel.unpack.compare y.toModel.unpack = some (compare (rung x) (rung y)) := by
  have number {z : Float} (hz : z.isNaN = false) :
      IsNumber z.toModel.unpack ∧ unpackedRung z.toModel.unpack = rung z :=
    (unpacked_rung z).resolve_left fun e => by
      rw [isNaN_iff.2 e] at hz
      cases hz
  obtain ⟨x_number, x_rung⟩ := number hx
  obtain ⟨y_number, y_rung⟩ := number hy
  rw [compare_unpacked x_number y_number, x_rung, y_rung]

/-- A double is less than another one where they compare so. -/
lemma lt_iff_compare : x < y ↔ x.toModel.unpack.compare y.toModel.unpack = some .lt := by
  show decide (x.toModel < y.toModel) = true ↔ _
  rw [decide_eq_true_iff]
  exact beq_iff_eq

/-- Doubles are equal where they compare so. -/
lemma beq_iff_compare :
    (x == y) = true ↔ x.toModel.unpack.compare y.toModel.unpack = some .eq := by
  show (x.toModel.unpack.compare y.toModel.unpack == some .eq) = true ↔ _
  exact beq_iff_eq

/-- One double is less than another where both are numbers and it stands on a lower rung. -/
lemma lt_iff_rung : x < y ↔ (x.isNaN = false ∧ y.isNaN = false) ∧ rung x < rung y := by
  rw [lt_iff_compare]
  by_cases numbers : x.isNaN = false ∧ y.isNaN = false
  · rw [compare_some numbers.1 numbers.2, Option.some_inj, Int.compare_eq_lt]
    exact (and_iff_right numbers).symm
  · rw [compare_none (by simpa [Decidable.or_iff_not_imp_left] using numbers)]
    exact ⟨nofun, fun h => absurd h.1 numbers⟩

/-- Doubles are equal where both are numbers and stand on the same rung. -/
lemma beq_iff_rung : (x == y) = true ↔ (x.isNaN = false ∧ y.isNaN = false) ∧ rung x = rung y := by
  rw [beq_iff_compare]
  by_cases numbers : x.isNaN = false ∧ y.isNaN = false
  · rw [compare_some numbers.1 numbers.2, Option.some_inj, Int.compare_eq_eq]
    exact (and_iff_right numbers).symm
  · rw [compare_none (by simpa [Decidable.or_iff_not_imp_left] using numbers)]
    exact ⟨nofun, fun h => absurd h.1 numbers⟩

/-- A double is equal to itself where it is no NaN. -/
lemma beq_self_iff : (x == x) = true ↔ x.isNaN = false := by
  rw [beq_iff_rung]
  exact ⟨fun h => h.1.1, fun h => ⟨⟨h, h⟩, rfl⟩⟩

/-- Equal numbers from zero up, negative zero apart, have the same place in the total order. -/
lemma rank_eq_of_beq (hx : Scalar.rankLe 0.0 x = true) (hy : Scalar.rankLe 0.0 y = true)
    (e : (x == y) = true) : Scalar.rank x y = .eq := by
  have key_nonneg {z : Float} (hz : Scalar.rankLe 0.0 z = true) : 0 ≤ rankKey z :=
    Int.isLE_compare.1 hz
  have same := (beq_iff_rung.1 e).2
  refine Int.compare_eq_eq.2 ?_
  have := rankKey_cases x
  have := rankKey_cases y
  have := key_nonneg hx
  have := key_nonneg hy
  omega

end Geometry

open Whereabouts.Geometry

instance : RankedScalar Float where
  toTransCmp := inferInstance
  toPartialEquivBEq := inferInstance
  lt_irrefl _ lt := Int.lt_irrefl _ (lt_iff_rung.1 lt).2
  lt_trans ab bc := by
    obtain ⟨⟨ha, -⟩, lt⟩ := lt_iff_rung.1 ab
    obtain ⟨⟨-, hc⟩, lt'⟩ := lt_iff_rung.1 bc
    exact lt_iff_rung.2 ⟨⟨ha, hc⟩, Int.lt_trans lt lt'⟩
  lt_of_lt_of_beq ab bc := by
    obtain ⟨⟨ha, -⟩, lt⟩ := lt_iff_rung.1 ab
    obtain ⟨⟨-, hc⟩, e⟩ := beq_iff_rung.1 bc
    exact lt_iff_rung.2 ⟨⟨ha, hc⟩, e ▸ lt⟩
  lt_of_beq_of_lt ab bc := by
    obtain ⟨⟨ha, -⟩, e⟩ := beq_iff_rung.1 ab
    obtain ⟨⟨-, hc⟩, lt⟩ := lt_iff_rung.1 bc
    exact lt_iff_rung.2 ⟨⟨ha, hc⟩, e ▸ lt⟩
  trichotomy {a b} ha hb := by
    have numbers := And.intro (beq_self_iff.1 ha) (beq_self_iff.1 hb)
    rcases Int.lt_trichotomy (rung a) (rung b) with lt | e | gt
    · exact .inl (lt_iff_rung.2 ⟨numbers, lt⟩)
    · exact .inr (.inl (beq_iff_rung.2 ⟨numbers, e⟩))
    · exact .inr (.inr (lt_iff_rung.2 ⟨numbers.symm, gt⟩))
  rank_eq_lt {a b} ab := by
    have lt := (lt_iff_rung.1 ab).2
    refine Int.compare_eq_lt.2 ?_
    have := rankKey_cases a
    have := rankKey_cases b
    omega

end Whereabouts
