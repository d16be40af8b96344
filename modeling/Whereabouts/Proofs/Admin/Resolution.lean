import Mathlib.Data.List.Nodup
import Whereabouts.Store.Gateway
import Whereabouts.Proofs.Geometry.Reals
import Whereabouts.Proofs.Store.Index

/-!
# What resolving finds

The hierarchy that is resolved for a point is that of a plain look at all boundaries: at each level
stands the boundary that is least by size and then by number among those that contain the point. The
detour over a plan, an index of rectangles and a sort changes nothing, and neither does the order in
which the boundaries were loaded.

* `Boundary.choose?_eq_some_iff`: the chosen boundary is the least one.
* `MapData.boundariesOf_perm`: the plan for a point finds the boundaries that contain it.
* `Gateway.resolveAll_least`: the statement for several points.
-/

namespace Whereabouts

open LawfulScalar Std

variable {α : Type} [Scalar α] [Measured α]

namespace Boundary

/-- Two boundaries compared by size and then by number. -/
def order (a b : Boundary α) : Ordering :=
  (Scalar.rank a.size b.size).then (compare a.id b.id)

omit [Scalar α] [Measured α] in
/-- Boundaries that are chosen from among boundaries with different numbers have different ones. -/
lemma nodup_filter {bs : List (Boundary α)} (nodup : (bs.map (·.id)).Nodup)
    (q : Boundary α → Bool) : ((bs.filter q).map (·.id)).Nodup :=
  nodup.sublist (List.filter_sublist.map _)

/-- A boundary is no later in the order than those it precedes. -/
lemma order_isLE {a b : Boundary α} : (order a b).isLE = true ↔ a.precedes b = true := .rfl

/-- A boundary precedes those of a greater size, and those of its own size with a greater id. -/
lemma precedes_iff {a b : Boundary α} : a.precedes b = true ↔
    Scalar.rank a.size b.size = .lt ∨ Scalar.rank a.size b.size = .eq ∧ a.id ≤ b.id := by
  unfold precedes
  rw [Ordering.isLE_then_iff_or, isLE_compare]

section Order

variable [TransCmp (Scalar.rank (α := α))] {a b c : Boundary α}

instance : TransCmp fun a b : Boundary α => Scalar.rank a.size b.size where
  eq_swap := OrientedCmp.eq_swap
  isLE_trans := TransCmp.isLE_trans

instance : TransCmp (order (α := α)) :=
  inferInstanceAs (TransCmp (compareLex (fun a b : Boundary α => Scalar.rank a.size b.size)
    (compareOn fun b => b.id)))

/-- A boundary precedes itself. -/
lemma precedes_self (a : Boundary α) : a.precedes a = true := by
  have e : order a a = .eq := ReflCmp.compare_self
  exact congrArg Ordering.isLE e

/-- A boundary precedes those that follow the ones it precedes. -/
lemma precedes_trans (ab : a.precedes b = true) (bc : b.precedes c = true) :
    a.precedes c = true :=
  TransCmp.isLE_trans (b := b) (order_isLE.2 ab) (order_isLE.2 bc)

/-- Of two boundaries one precedes the other. -/
lemma precedes_of_not (h : ¬ a.precedes b = true) : b.precedes a = true := by
  have lt : order b a = .lt := OrientedCmp.lt_of_not_isLE h
  exact congrArg Ordering.isLE lt

/-- Two boundaries that precede each other have one number. -/
lemma id_eq_of_precedes (ab : a.precedes b = true) (ba : b.precedes a = true) : a.id = b.id := by
  have e : order a b = .eq := OrientedCmp.isLE_antisymm ab ba
  exact LawfulEqCmp.eq_of_compare (Ordering.then_eq_eq.1 e).2

omit [TransCmp (Scalar.rank (α := α))] in
/-- Choosing compares the first two boundaries and goes on with the one that precedes. -/
lemma choose?_cons_cons (bs : List (Boundary α)) :
    choose? (a :: b :: bs) = choose? ((if a.precedes b then a else b) :: bs) := rfl

/-- The chosen boundary comes before all others. -/
lemma choose?_least {bs : List (Boundary α)} (h : choose? bs = some a) :
    a ∈ bs ∧ ∀ b ∈ bs, a.precedes b = true := by
  cases bs with
  | nil => nomatch h
  | cons first bs =>
    induction bs generalizing first with
    | nil =>
      cases h
      exact ⟨List.mem_cons_self, fun b hb => List.mem_singleton.1 hb ▸ precedes_self b⟩
    | cons second bs ih =>
      rw [choose?_cons_cons] at h
      obtain ⟨mem, least⟩ := ih _ h
      have better := least _ List.mem_cons_self
      by_cases le : first.precedes second = true
      · rw [if_pos le] at mem better
        refine ⟨List.mem_cons.2 ((List.mem_cons.1 mem).imp_right (List.mem_cons_of_mem _)), ?_⟩
        rintro b (_ | ⟨_, _ | ⟨_, hb⟩⟩)
        · exact better
        · exact precedes_trans better le
        · exact least b (List.mem_cons_of_mem _ hb)
      · rw [if_neg le] at mem better
        refine ⟨List.mem_cons_of_mem _ mem, ?_⟩
        rintro b (_ | ⟨_, _ | ⟨_, hb⟩⟩)
        · exact precedes_trans better (precedes_of_not le)
        · exact better
        · exact least b (List.mem_cons_of_mem _ hb)

omit [TransCmp (Scalar.rank (α := α))] in
/-- Nothing is chosen where there is nothing to choose from. -/
lemma choose?_eq_none_iff {bs : List (Boundary α)} : choose? bs = none ↔ bs = [] := by
  cases bs with
  | nil => exact ⟨fun _ => rfl, fun _ => rfl⟩
  | cons => exact ⟨(nomatch ·), (nomatch ·)⟩

/-- Among boundaries with different numbers the chosen one is the least one. -/
lemma choose?_eq_some_iff {bs : List (Boundary α)} (nodup : (bs.map (·.id)).Nodup) :
    choose? bs = some a ↔ a ∈ bs ∧ ∀ b ∈ bs, a.precedes b = true := by
  refine ⟨fun h => choose?_least h, fun ⟨mem, least⟩ => ?_⟩
  cases e : choose? bs with
  | none => exact absurd (choose?_eq_none_iff.1 e) (List.ne_nil_of_mem mem)
  | some b =>
    obtain ⟨mem', least'⟩ := choose?_least e
    have id_eq := id_eq_of_precedes (least' a mem) (least b mem')
    exact congrArg some (List.inj_on_of_nodup_map nodup mem' mem id_eq)

/-- The order of the boundaries does not matter for the choice. -/
lemma choose?_perm {bs cs : List (Boundary α)} (nodup : (bs.map (·.id)).Nodup)
    (perm : bs.Perm cs) : choose? bs = choose? cs := by
  apply Option.ext
  intro a
  rw [choose?_eq_some_iff nodup, choose?_eq_some_iff ((perm.map _).nodup_iff.1 nodup), perm.mem_iff]
  simp only [perm.mem_iff]

end Order

end Boundary

namespace Hierarchy

/-- What is reported of the boundary that is chosen for a level. -/
def chosen? (bs : List (Boundary α)) (level : Level) : Option BoundaryInfo :=
  (Boundary.choose? (bs.filter fun b => b.level = level)).map BoundaryInfo.ofBoundary

/-- At its level a hierarchy is set to the boundary that is chosen, if there is one. -/
lemma get?_setChosen (bs : List (Boundary α)) (h : Hierarchy) (level : Level) :
    (setChosen bs h level).get? level = (chosen? bs level).or (h.get? level) := by
  unfold setChosen chosen?
  split
  next b e =>
    rw [e, get?_set]
    rfl
  next e =>
    rw [e]
    rfl

/-- At the other levels a hierarchy stays as it is. -/
lemma get?_setChosen_of_ne (bs : List (Boundary α)) (h : Hierarchy) {level other : Level}
    (ne : other ≠ level) : (setChosen bs h level).get? other = h.get? other := by
  unfold setChosen
  split
  next => exact get?_set_of_ne h _ ne
  next => rfl

/-- The levels that are filled hold what was chosen for them. -/
lemma get?_foldl_setChosen (bs : List (Boundary α)) (levels : List Level) (h : Hierarchy)
    (level : Level) : (levels.foldl (setChosen bs) h).get? level =
      (if level ∈ levels then chosen? bs level else none).or (h.get? level) := by
  induction levels generalizing h with
  | nil => simp
  | cons first levels ih =>
    rw [List.foldl_cons, ih]
    by_cases e : level = first
    · subst e
      rw [get?_setChosen, if_pos List.mem_cons_self]
      -- the level may stand in the list once more
      split <;> cases chosen? bs level <;> rfl
    · rw [get?_setChosen_of_ne bs h e]
      simp [e]

/-- The hierarchy of boundaries holds at each level what is chosen for it. -/
lemma get?_ofBoundaries {bs : List (Boundary α)} {h : Hierarchy} (e : ofBoundaries bs = some h)
    (level : Level) : h.get? level = chosen? bs level := by
  unfold ofBoundaries at e
  split at e
  next => nomatch e
  next =>
    cases e
    rw [get?_foldl_setChosen, if_pos (Level.mem_all level)]
    have missing : empty.get? level = none := by cases level <;> rfl
    rw [missing, Option.or_none]

omit [Scalar α] [Measured α] in
/-- Boundaries of some level leave no hierarchy empty. -/
lemma isEmpty_eq_false {h : Hierarchy} {level : Level} {info : BoundaryInfo}
    (e : h.get? level = some info) : h.isEmpty = false := by
  unfold isEmpty
  rw [List.all_eq_false]
  exact ⟨level, Level.mem_all level, by simp [e]⟩

variable [TransCmp (Scalar.rank (α := α))]

/-- The order of the boundaries does not matter for their hierarchy. -/
lemma ofBoundaries_perm {bs cs : List (Boundary α)} (nodup : (bs.map (·.id)).Nodup)
    (perm : bs.Perm cs) : ofBoundaries bs = ofBoundaries cs := by
  have same : setChosen bs = setChosen cs := by
    funext h level
    unfold setChosen
    rw [Boundary.choose?_perm (Boundary.nodup_filter nodup _) (perm.filter _)]
  unfold ofBoundaries
  rw [same, perm.isEmpty_eq]

end Hierarchy

/-- The boundary to report at a level: of those that contain the point the least one by size, of
equal sizes the one with the lower number. -/
structure Boundary.Least (features : List (Boundary α)) (p : Point α) (level : Level)
    (b : Boundary α) : Prop where
  mem : b ∈ features
  contains : b.contains p = true
  level_eq : b.level = level
  least : ∀ c ∈ features, c.contains p = true → c.level = level →
    Scalar.rank b.size c.size = .lt ∨ Scalar.rank b.size c.size = .eq ∧ b.id ≤ c.id

/-- The answer that a plain look at all boundaries gives for a point. -/
structure Resolves (features : List (Boundary α)) (p : Point α) (slot : Option Hierarchy) :
    Prop where
  none_iff : slot = none ↔ ∀ b ∈ features, b.contains p = false
  reports : ∀ h, slot = some h → ∀ level info, h.get? level = some info ↔
    ∃ b, Boundary.Least features p level b ∧ BoundaryInfo.ofBoundary b = info
  missing : ∀ h, slot = some h → ∀ level, h.get? level = none ↔
    ∀ b ∈ features, b.level = level → b.contains p = false
  filled : ∀ h, slot = some h → h.isEmpty = false

/-- Whether the rectangles around boundaries hold a point wherever the boundaries do. -/
def Enclosed (features : List (Boundary α)) (p : Point α) : Prop :=
  ∀ b ∈ features, b.contains p = true → ∃ e, b.envelope? = some e ∧ e.contains p = true

section Scan

variable [TransCmp (Scalar.rank (α := α))] {features : List (Boundary α)} {p : Point α}

/-- The boundary that is chosen is the least of the boundaries around the point at this level. -/
lemma Boundary.choose?_filter (nodup : (features.map (·.id)).Nodup) (level : Level)
    {b : Boundary α} :
    choose? ((features.filter (·.contains p)).filter fun b => b.level = level) = some b ↔
      Least features p level b := by
  rw [choose?_eq_some_iff (nodup_filter (nodup_filter nodup _) _)]
  simp only [List.mem_filter, decide_eq_true_eq, precedes_iff]
  constructor
  · rintro ⟨⟨⟨mem, contains⟩, level_eq⟩, least⟩
    exact ⟨mem, contains, level_eq, fun c hc cp cl => least c ⟨⟨hc, cp⟩, cl⟩⟩
  · rintro ⟨mem, contains, level_eq, least⟩
    exact ⟨⟨⟨mem, contains⟩, level_eq⟩, fun c hc => least c hc.1.1 hc.1.2 hc.2⟩

omit [TransCmp (Scalar.rank (α := α))] in
/-- Nothing is chosen for a level where no boundary of it contains the point. -/
lemma Hierarchy.chosen?_eq_none_iff {level : Level} :
    chosen? (features.filter (·.contains p)) level = none ↔
      ∀ b ∈ features, b.level = level → b.contains p = false := by
  unfold chosen?
  rw [Option.map_eq_none_iff, Boundary.choose?_eq_none_iff, List.filter_eq_nil_iff]
  simp only [List.mem_filter, decide_eq_true_eq]
  constructor
  · intro none b hb level_eq
    exact Bool.eq_false_iff.2 fun contains => none b ⟨hb, contains⟩ level_eq
  · rintro none b ⟨hb, contains⟩ level_eq
    exact Bool.false_ne_true ((none b hb level_eq).symm.trans contains)

/-- What a plain look at all boundaries gives. -/
lemma resolves_filter (nodup : (features.map (·.id)).Nodup) :
    Resolves features p (Hierarchy.ofBoundaries (features.filter (·.contains p))) where
  none_iff := by
    unfold Hierarchy.ofBoundaries
    rw [ite_eq_left_iff]
    simp [List.filter_eq_nil_iff]
  reports h e level info := by
    rw [Hierarchy.get?_ofBoundaries e]
    unfold Hierarchy.chosen?
    rw [Option.map_eq_some_iff]
    exact exists_congr fun b => and_congr_left' (Boundary.choose?_filter nodup level)
  missing h e level := by
    rw [Hierarchy.get?_ofBoundaries e, Hierarchy.chosen?_eq_none_iff]
  filled h e := by
    have some_of : features.filter (·.contains p) ≠ [] := by
      intro none
      rw [none] at e
      nomatch e
    obtain ⟨b, hb⟩ := List.exists_mem_of_ne_nil _ some_of
    obtain ⟨mem, contains⟩ := List.mem_filter.1 hb
    cases held : h.get? b.level with
    | none =>
      rw [Hierarchy.get?_ofBoundaries e, Hierarchy.chosen?_eq_none_iff] at held
      exact absurd contains (Bool.eq_false_iff.1 (held b mem rfl))
    | some info => exact Hierarchy.isEmpty_eq_false held

end Scan

section Gateway

variable [LawfulScalar α]

omit [Measured α] in
/-- The boundaries around a valid point are looked up at the point itself. -/
lemma Plan.bound_containing {p : Point α} (valid : p.isValid = true) :
    (Plan.containing p Gateway.boundaryReach).predicate.bound? = some (Envelope.ofPoint p) :=
  congrArg some (Envelope.narrow_around zero_le_tenth valid)

/-- A boundary whose rectangle holds a valid point lies near it. -/
lemma Boundary.near_ofPoint {b : Boundary α} {own : Envelope α} {p : Point α}
    (valid : p.isValid = true) (e : b.envelope? = some own) (inside : own.contains p = true) :
    FeatureIndex.near (Envelope.ofPoint p) b = true := by
  have near : FeatureIndex.near (Envelope.ofPoint p) b = b.envelope?.any fun own =>
    (Envelope.ofPoint p).parts.any fun part => own.upright.intersects part.upright := rfl
  rw [near, e, Envelope.parts_ofPoint valid, Option.any_some, List.any_cons,
    Envelope.upright_ofPoint, Envelope.intersects_ofPoint, Envelope.contains_upright inside]
  rfl

/-- The plan for a point finds the boundaries that contain it. -/
lemma MapData.boundariesOf_perm {features : List (Boundary α)} (stops : List (Stop α))
    (lines : List (LineFeature α)) {p : Point α} (valid : p.isValid = true)
    (enclosed : Enclosed features p) :
    ((MapData.ofFeatures features stops lines).boundariesOf p).Perm
      (features.filter (·.contains p)) := by
  refine (Plan.answer_perm rfl (Plan.bound_containing valid) features).trans (List.Perm.of_eq ?_)
  apply List.filter_congr
  intro b hb
  have test : (Plan.containing p Gateway.boundaryReach).predicate.test b =
      ((b.envelope?.any (·.intersects (Envelope.around p Gateway.boundaryReach))) &&
        (b.contains p && true)) := rfl
  rw [test]
  cases contains : b.contains p with
  | false => simp
  | true =>
    obtain ⟨own, own_eq, inside⟩ := enclosed b hb contains
    have reach : own.intersects (Envelope.around p Gateway.boundaryReach) = true :=
      Envelope.intersects_around zero_le_tenth valid inside
    rw [Boundary.near_ofPoint valid own_eq inside, own_eq, Option.any_some, reach]
    rfl

/-- The hierarchy of a point is that of the boundaries that contain it. -/
lemma Gateway.resolveAll_eq [TransCmp (Scalar.rank (α := α))] {features : List (Boundary α)}
    (nodup : (features.map (·.id)).Nodup) (stops : List (Stop α)) (lines : List (LineFeature α))
    {points : List (Point α)} (valid : ∀ p ∈ points, p.isValid = true)
    (enclosed : ∀ p ∈ points, Enclosed features p) :
    ((MapData.ofFeatures features stops lines).gateway Id).resolveAll points =
      pure (points.map fun p => Hierarchy.ofBoundaries (features.filter (·.contains p))) := by
  rw [Gateway.each_resolveAll]
  apply congrArg
  apply List.map_congr_left
  intro p hp
  have perm := MapData.boundariesOf_perm stops lines (valid p hp) (enclosed p hp)
  exact (Hierarchy.ofBoundaries_perm (Boundary.nodup_filter nodup _) perm.symm).symm

variable [TransCmp (Scalar.rank (α := α))]

/-- **Resolving gives what a plain look gives.** For every point stands the least of the boundaries
around it at each level, and in whatever order they were loaded the answer is the same. -/
theorem Gateway.resolveAll_least {features : List (Boundary α)}
    (nodup : (features.map (·.id)).Nodup) (stops : List (Stop α)) (lines : List (LineFeature α))
    {points : List (Point α)} (valid : ∀ p ∈ points, p.isValid = true)
    (enclosed : ∀ p ∈ points, Enclosed features p) :
    ∃ slots, ((MapData.ofFeatures features stops lines).gateway Id).resolveAll points = pure slots ∧
      List.Forall₂ (Resolves features) points slots ∧
      ∀ features', features'.Perm features →
        ((MapData.ofFeatures features' stops lines).gateway Id).resolveAll points = pure slots := by
  refine ⟨_, resolveAll_eq nodup stops lines valid enclosed, ?_, ?_⟩
  · rw [List.forall₂_map_right_iff, List.forall₂_same]
    exact fun p _ => resolves_filter nodup
  · intro features' perm
    have nodup' : (features'.map (·.id)).Nodup := (perm.map _).nodup_iff.2 nodup
    have enclosed' : ∀ p ∈ points, Enclosed features' p := fun p hp b hb =>
      enclosed p hp b (perm.mem_iff.1 hb)
    rw [resolveAll_eq nodup' stops lines valid enclosed']
    apply congrArg
    apply List.map_congr_left
    intro p _
    exact Hierarchy.ofBoundaries_perm (Boundary.nodup_filter nodup' _) (perm.filter _)

end Gateway

section Sample

/-- A square north and east of the crossing of the equator and the first meridian. -/
def cornerSquare (side : ℝ) : Area ℝ :=
  [⟨[⟨0, 0⟩, ⟨0, side⟩, ⟨side, side⟩, ⟨side, 0⟩, ⟨0, 0⟩], []⟩]

noncomputable def squareCity (id : Int) (side : ℝ) : Boundary ℝ where
  id
  level := .city
  names := ⟨[("default", "Square")], List.pairwise_singleton _ _⟩
  population := none
  declaredSize := some (side * side)
  area := cornerSquare side

/-- The rectangle around a square of more than a degree holds the place a degree from its corner. -/
lemma squareCity_envelope (id : Int) {side : ℝ} (large : 1 < side) :
    ∃ e, (squareCity id side).envelope? = some e ∧ e.contains ⟨1, 1⟩ = true := by
  have pos : 0 < side := one_pos.trans large
  refine ⟨_, rfl, Envelope.contains_iff.2 ?_⟩
  simp [Envelope.extend, Envelope.ofPoint, pos, pos.not_gt, large.le]

/-- Of two cities around a point the smaller one is found. -/
theorem Gateway.smaller_square_resolved :
    (squareCity 1 4).contains ⟨1, 1⟩ = true ∧
    ∃ slots, ((MapData.ofFeatures [squareCity 1 4, squareCity 2 3] [] []).gateway Id).resolveAll
        [⟨1, 1⟩] = pure slots ∧
      List.Forall₂ (Resolves [squareCity 1 4, squareCity 2 3]) [⟨1, 1⟩] slots ∧
      ∀ features', features'.Perm [squareCity 1 4, squareCity 2 3] →
        ((MapData.ofFeatures features' [] []).gateway Id).resolveAll [⟨1, 1⟩] = pure slots := by
  constructor
  · norm_num [squareCity, cornerSquare, Boundary.contains, Area.contains, Polygon.contains,
      Ring.position, Ring.segments, Ring.winding?, Scalar.turn, Ring.between, compare_lt_iff_lt,
      compare_gt_iff_gt]
  · apply Gateway.resolveAll_least (by simp [squareCity]) [] []
    · rintro p (_ | ⟨_, ⟨⟩⟩)
      exact Point.isValid_iff.2 (by norm_num [Scalar.isFinite])
    · rintro p (_ | ⟨_, ⟨⟩⟩) b hb -
      rcases hb with _ | ⟨_, _ | ⟨_, ⟨⟩⟩⟩
      · exact squareCity_envelope 1 (by norm_num)
      · exact squareCity_envelope 2 (by norm_num)

end Sample

end Whereabouts
