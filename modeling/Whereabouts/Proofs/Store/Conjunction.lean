import Whereabouts.Proofs.Geometry.Rectangles
import Whereabouts.Proofs.Store.Index
import Whereabouts.Transit.Stop

/-!
# Conditions that hold together

The bound of several conditions is the overlap of their rectangles. As long as these overlap two by
two, what touches each of them touches the overlap as well, so that no match is lost, however the
conditions are ordered and nested. Where two of them are apart, a corner of one stands for their
overlap. A feature that reaches from one to the other is lost then, but none that is in one place.

* `Predicate.frames`: the rectangles of a predicate.
* `Envelope.DrawnFrom`: a bound has its sides from these rectangles.
* `Predicate.Charted.meets`: a match touches every one of them.
* `Plan.execute_charted`: what is found for a predicate, and what cannot be lost.
* `Plan.diagonal_line_lost`: a match that is not found.
-/

namespace Whereabouts

open OrderedScalar

section Bounds

variable {α : Type} [Scalar α]

namespace Envelope

/-- Every two of the rectangles touch. -/
def Touching (frames : List (Envelope α)) : Prop :=
  ∀ e ∈ frames, ∀ f ∈ frames, e.intersects f = true

/-- Every side of an envelope is that of one of the rectangles. -/
structure DrawnFrom (frames : List (Envelope α)) (e : Envelope α) : Prop where
  west : ∃ f ∈ frames, e.minLon = f.minLon
  south : ∃ f ∈ frames, e.minLat = f.minLat
  east : ∃ f ∈ frames, e.maxLon = f.maxLon
  north : ∃ f ∈ frames, e.maxLat = f.maxLat

variable {frames : List (Envelope α)} {e f : Envelope α}

omit [Scalar α] in
/-- One of the rectangles is drawn from them. -/
lemma DrawnFrom.of_mem (mem : e ∈ frames) : e.DrawnFrom frames :=
  ⟨⟨e, mem, rfl⟩, ⟨e, mem, rfl⟩, ⟨e, mem, rfl⟩, ⟨e, mem, rfl⟩⟩

/-- What touches all the rectangles touches every envelope that is drawn from them. -/
lemma DrawnFrom.intersects (drawn : e.DrawnFrom frames)
    (all : ∀ frame ∈ frames, f.intersects frame = true) : f.intersects e = true := by
  obtain ⟨⟨w, hw, west⟩, ⟨s, hs, south⟩, ⟨t, ht, east⟩, ⟨n, hn, north⟩⟩ := drawn
  rw [intersects_iff, west, south, east, north]
  exact ⟨⟨(intersects_iff.1 (all t ht)).1.1, (intersects_iff.1 (all w hw)).1.2⟩,
    (intersects_iff.1 (all n hn)).2.1, (intersects_iff.1 (all s hs)).2.2⟩

/-- Envelopes that are drawn from rectangles of which every two touch, touch too. -/
lemma DrawnFrom.intersects_of_touching (touching : Touching frames) (he : e.DrawnFrom frames)
    (hf : f.DrawnFrom frames) : e.intersects f = true :=
  hf.intersects fun frame mem =>
    intersects_comm (he.intersects fun frame' mem' => touching frame mem frame' mem')

/-- An envelope that is drawn from touching rectangles on the map lies on the map. -/
lemma DrawnFrom.onMap (touching : Touching frames) (om : ∀ frame ∈ frames, frame.OnMap)
    (drawn : e.DrawnFrom frames) : e.OnMap := by
  obtain ⟨⟨w, hw, west⟩, ⟨s, hs, south⟩, ⟨t, ht, east⟩, ⟨n, hn, north⟩⟩ := drawn
  constructor
  · exact west ▸ (om w hw).west
  · rw [west, east]
    exact (intersects_iff.1 (touching w hw t ht)).1.1
  · exact east ▸ (om t ht).east
  · exact south ▸ (om s hs).south
  · rw [south, north]
    exact (intersects_iff.1 (touching s hs n hn)).2.1
  · exact north ▸ (om n hn).north

end Envelope

namespace Scalar

/-- The smaller of two numbers is one of them. -/
lemma of_least {a b : α} {q : α → Prop} (left : q a) (right : q b) : q (least a b) := by
  unfold least
  split <;> assumption

/-- The greater of two numbers is one of them. -/
lemma of_greatest {a b : α} {q : α → Prop} (left : q a) (right : q b) : q (greatest a b) := by
  unfold greatest
  split <;> assumption

end Scalar

namespace Predicate

mutual

/-- The rectangles of the conditions of a predicate. -/
def frames : Predicate α → List (Envelope α)
  | .all conditions => framesAll conditions
  | .touches envelope => [envelope]
  | .contains point => [Envelope.ofPoint point]
  | .within origin metres => [Envelope.aroundMetres origin metres]
  | .modeIn _ => []

/-- The rectangles of several conditions. -/
def framesAll : List (Predicate α) → List (Envelope α)
  | [] => []
  | condition :: rest => condition.frames ++ framesAll rest

end

/-- A predicate of conditions on places and modes, without one on distances, whose rectangles lie on
the map. -/
inductive Charted : Predicate α → Prop where
  | all {conditions : List (Predicate α)} :
    (∀ condition ∈ conditions, Charted condition) →
    Charted (.all conditions)
  | touches {envelope : Envelope α} :
    envelope.OnMap →
    Charted (.touches envelope)
  | contains (point : Point α) :
    Charted (.contains point)
  | modeIn (modes : List Mode) :
    Charted (.modeIn modes)

/-- The rectangles of several conditions are those of each of them. -/
lemma mem_framesAll {conditions : List (Predicate α)} {frame : Envelope α} :
    frame ∈ framesAll conditions ↔ ∃ condition ∈ conditions, frame ∈ condition.frames := by
  induction conditions with
  | nil => simp [framesAll]
  | cons condition rest ih => simp [framesAll, ih]

variable {all : List (Envelope α)} {current bound : Envelope α}

/-- Bounds that touch are narrowed to an envelope with the sides of both. -/
lemma drawn_narrow (touching : Envelope.Touching all) (hc : current.DrawnFrom all)
    (hb : bound.DrawnFrom all) : (narrow current bound).DrawnFrom all := by
  unfold narrow Envelope.intersection?
  rw [if_pos (hc.intersects_of_touching touching hb)]
  constructor
  · exact Scalar.of_greatest (q := fun x => ∃ f ∈ all, x = f.minLon) hc.west hb.west
  · exact Scalar.of_greatest (q := fun x => ∃ f ∈ all, x = f.minLat) hc.south hb.south
  · exact Scalar.of_least (q := fun x => ∃ f ∈ all, x = f.maxLon) hc.east hb.east
  · exact Scalar.of_least (q := fun x => ∃ f ∈ all, x = f.maxLat) hc.north hb.north

/-- Narrowing one bound by another keeps to the sides of the rectangles. -/
lemma drawn_narrow? (touching : Envelope.Touching all) {known own : Option (Envelope α)}
    (hk : ∀ b, known = some b → b.DrawnFrom all) (ho : ∀ b, own = some b → b.DrawnFrom all) :
    ∀ b, narrow? known own = some b → b.DrawnFrom all := by
  intro b eq
  cases known with
  | none =>
    cases own with
    | none => cases eq
    | some => exact ho b eq
  | some k =>
    cases own with
    | none => exact hk b eq
    | some o =>
      cases eq
      exact drawn_narrow touching (hk k rfl) (ho o rfl)

/-- Bounding by several conditions keeps to the sides of the rectangles. -/
lemma drawn_boundAll (touching : Envelope.Touching all) {conditions : List (Predicate α)}
    (each : ∀ condition ∈ conditions, ∀ b, condition.bound? = some b → b.DrawnFrom all)
    {known : Option (Envelope α)} (start : ∀ b, known = some b → b.DrawnFrom all)
    (eq : boundAll? known conditions = some bound) : bound.DrawnFrom all := by
  induction conditions generalizing known with
  | nil => exact start bound eq
  | cons condition rest ih =>
    have narrowed := drawn_narrow? touching start (each condition List.mem_cons_self)
    exact ih (fun c hc => each c (List.mem_cons_of_mem _ hc)) narrowed eq

/-- Where the rectangles of a predicate touch two by two, its bound is drawn from them. -/
lemma Charted.bound_drawn {predicate : Predicate α} (ch : predicate.Charted)
    (touching : Envelope.Touching all) (sub : predicate.frames ⊆ all)
    (eq : predicate.bound? = some bound) : bound.DrawnFrom all := by
  induction ch generalizing bound with
  | @all conditions _ ih =>
    have folded : boundAll? none conditions = some bound := eq
    refine drawn_boundAll touching ?_ ?_ folded
    · intro condition mem b own
      exact ih condition mem (fun frame hf => sub (mem_framesAll.2 ⟨condition, mem, hf⟩)) own
    · exact fun _ start => nomatch start
  | touches =>
    cases eq
    exact .of_mem (sub List.mem_cons_self)
  | contains =>
    cases eq
    exact .of_mem (sub List.mem_cons_self)
  | modeIn => cases eq

end Predicate

end Bounds

/-- The plan for all features of a layer that satisfy a predicate, in no order. -/
def Plan.gathering {α : Type} (layer : Layer) (predicate : Predicate α) : Plan α :=
  ⟨layer, predicate, .unordered, none⟩

section Matches

variable {α τ : Type} [Scalar α] [Feature α τ]

/-- The rectangle around a feature lies on the map, and holds the points that the feature
contains. -/
structure Feature.Charted (feature : τ) : Prop where
  onMap : ∀ own, Feature.envelope? (α := α) feature = some own → own.OnMap
  inside : ∀ p : Point α, Feature.contains feature p = true →
    ∃ own, Feature.envelope? feature = some own ∧ own.contains p = true

variable {feature : τ}

/-- Several conditions are satisfied where each of them is. -/
lemma Predicate.testAll_iff {conditions : List (Predicate α)} :
    testAll feature conditions = true ↔
      ∀ condition ∈ conditions, condition.test feature = true := by
  induction conditions with
  | nil => exact ⟨fun _ _ mem => absurd mem List.not_mem_nil, fun _ => rfl⟩
  | cons condition rest ih =>
    unfold testAll
    rw [Bool.and_eq_true, ih, List.forall_mem_cons]

/-- A feature touches a rectangle where its envelope does. -/
lemma Predicate.test_touches {e : Envelope α} : (touches e).test feature = true ↔
    ∃ own, Feature.envelope? feature = some own ∧ own.intersects e = true := by
  unfold test
  exact Option.any_eq_true _ _

variable [OrderedScalar α] {predicate : Predicate α} {bound own : Envelope α}

/-- A feature that satisfies a predicate touches all of its rectangles, and these lie on the map. -/
lemma Predicate.Charted.meets (ch : predicate.Charted) (fc : Feature.Charted feature)
    (test : predicate.test feature = true) {frame : Envelope α} (mem : frame ∈ predicate.frames) :
    frame.OnMap ∧ ∃ own, Feature.envelope? feature = some own ∧ own.intersects frame = true := by
  induction ch with
  | all _ ih =>
    obtain ⟨condition, hc, hf⟩ := mem_framesAll.1 mem
    exact ih condition hc (testAll_iff.1 test condition hc) hf
  | touches om =>
    cases List.mem_singleton.1 mem
    exact ⟨om, test_touches.1 test⟩
  | contains point =>
    cases List.mem_singleton.1 mem
    obtain ⟨own, eq, inside⟩ := fc.inside point test
    exact ⟨(fc.onMap own eq).of_contains inside, own, eq,
      Envelope.intersects_ofPoint.trans inside⟩
  | modeIn => cases mem

/-- Where the rectangles touch two by two, a match lies near the bound. -/
lemma Predicate.Charted.near_bound (ch : predicate.Charted) (fc : Feature.Charted feature)
    (touching : Envelope.Touching predicate.frames) (bounded : predicate.bound? = some bound)
    (test : predicate.test feature = true) : FeatureIndex.near bound feature = true := by
  have drawn := ch.bound_drawn touching (List.Subset.refl _) bounded
  -- a bound has its sides from somewhere, and what touches a rectangle has a place
  obtain ⟨frame, mem, -⟩ := drawn.west
  obtain ⟨-, own, eq, -⟩ := ch.meets fc test mem
  have touches : ∀ frame ∈ predicate.frames, own.intersects frame = true := by
    intro frame mem
    obtain ⟨-, own', eq', touch⟩ := ch.meets fc test mem
    cases eq.symm.trans eq'
    exact touch
  have om : bound.OnMap := drawn.onMap touching fun frame mem => (ch.meets fc test mem).1
  unfold FeatureIndex.near
  rw [eq, Option.any_some]
  exact (fc.onMap own eq).touches_parts om (drawn.intersects touches)

/-- A match that is in one place is where all the rectangles are. -/
lemma Predicate.Charted.touching_of_place (ch : predicate.Charted) (fc : Feature.Charted feature)
    {place : Point α} (eq : Feature.envelope? feature = some (Envelope.ofPoint place))
    (test : predicate.test feature = true) : Envelope.Touching predicate.frames := by
  have holds : ∀ frame ∈ predicate.frames, frame.contains place = true := by
    intro frame mem
    obtain ⟨-, own, eq', touch⟩ := ch.meets fc test mem
    cases eq.symm.trans eq'
    exact Envelope.ofPoint_intersects.symm.trans touch
  exact fun e he f hf => Envelope.intersects_of_contains (holds e he) (holds f hf)

/-- **What is found for conditions that hold together.** Of the features that satisfy the predicate
those near its bound are found, and none besides; that is all of them just when none lies off the
bound. None does where the rectangles of the conditions touch two by two, and no feature that is in
one place does in any case. -/
theorem Plan.execute_charted {features : List τ} (charted : ∀ f ∈ features, Feature.Charted f)
    (ch : predicate.Charted) (bounded : predicate.bound? = some bound) (layer : Layer) :
    ∃ found, (gathering layer predicate).execute layer (.ofList features) = .ok found ∧
      found.Perm (features.filter fun f => FeatureIndex.near bound f && predicate.test f) ∧
      (found.Perm (features.filter (predicate.test ·)) ↔
        ∀ f ∈ features, predicate.test f = true → FeatureIndex.near bound f = true) ∧
      (Envelope.Touching predicate.frames → found.Perm (features.filter (predicate.test ·))) ∧
      ∀ f ∈ features, ∀ place, Feature.envelope? f = some (Envelope.ofPoint place) →
        predicate.test f = true → f ∈ found := by
  have ex : (gathering layer predicate).Executable layer :=
    ⟨rfl, Option.isSome_iff_exists.2 ⟨bound, bounded⟩⟩
  have perm : ((gathering layer predicate).answer (.ofList features)).Perm _ :=
    answer_perm rfl bounded features
  have all_iff : ((gathering layer predicate).answer (.ofList features)).Perm
      (features.filter (predicate.test ·)) ↔
        ∀ f ∈ features, predicate.test f = true → FeatureIndex.near bound f = true := by
    rw [← filter_and_perm_iff]
    exact ⟨perm.symm.trans, perm.trans⟩
  refine ⟨_, ex.execute _, perm, all_iff, fun touching => ?_, fun f mem place eq test => ?_⟩
  · exact all_iff.2 fun f mem test => ch.near_bound (charted f mem) touching bounded test
  · have touching := ch.touching_of_place (charted f mem) eq test
    have near := ch.near_bound (charted f mem) touching bounded test
    exact perm.mem_iff.2 (List.mem_filter.2 ⟨mem, Bool.and_eq_true_iff.2 ⟨near, test⟩⟩)

end Matches

section Features

variable {α : Type} [Scalar α] [OrderedScalar α]

/-- The envelope of a stop is the stop itself. -/
lemma Stop.charted (s : Stop α) : Feature.Charted s where
  onMap own eq := by
    have known : s.envelope? = some own := eq
    unfold Stop.envelope? at known
    split at known
    next valid =>
      cases known
      exact .ofPoint valid
    next => cases known
  inside _ h := nomatch h

/-- The envelope of a line holds all points of its track. -/
lemma LineFeature.charted {f : LineFeature α} (valid : ∀ p ∈ f.track.flatten, p.isValid = true) :
    Feature.Charted f where
  onMap _ eq := (Envelope.onMap_bounding? (fun p hp => .ofPoint (valid p hp)) eq).1
  inside _ h := nomatch h

end Features

section Sample

/-- A line that runs to the north east. -/
noncomputable def diagonalLine : LineFeature ℝ :=
  ⟨⟨"relation/1", none, "Diagonal", none, .metro⟩, [[⟨0.5, 0.5⟩, ⟨3.5, 3.5⟩]]⟩

/-- The diagonal line lies within its envelope. -/
lemma diagonalLine_charted : ∀ f ∈ [diagonalLine], Feature.Charted f := by
  intro f hf
  cases List.mem_singleton.1 hf
  apply LineFeature.charted
  rintro p (_ | ⟨_, _ | ⟨_, ⟨⟩⟩⟩)
  · exact Point.isValid_iff.2 (by norm_num [Scalar.isFinite])
  · exact Point.isValid_iff.2 (by norm_num [Scalar.isFinite])

/-- The envelope of the diagonal line is the square of which it is the diagonal. -/
lemma diagonalLine_envelope :
    Feature.envelope? (α := ℝ) diagonalLine = some ⟨0.5, 0.5, 3.5, 3.5⟩ := by
  show some (Envelope.extend _ _) = _
  norm_num [Envelope.extend, Envelope.ofPoint]

/-- The conditions to touch two squares along the diagonal. -/
noncomputable def touchesBoth (side corner : ℝ) : Predicate ℝ :=
  .all [.touches ⟨0, 0, side, side⟩, .touches ⟨corner, corner, 4, 4⟩]

/-- The two squares lie on the map. -/
lemma touchesBoth_charted {side corner : ℝ} (hs : 0 ≤ side) (hs' : side ≤ 4) (hc : 0 ≤ corner)
    (hc' : corner ≤ 4) : (touchesBoth side corner).Charted := by
  refine .all ?_
  rintro c (_ | ⟨_, _ | ⟨_, ⟨⟩⟩⟩)
  · exact .touches (by constructor <;> norm_num <;> linarith)
  · exact .touches (by constructor <;> norm_num <;> linarith)

/-- The diagonal line touches both squares. -/
lemma test_touchesBoth {side corner : ℝ} (hs : 0.5 ≤ side) (hc : corner ≤ 3.5) :
    (touchesBoth side corner).test diagonalLine = true := by
  refine Predicate.testAll_iff.2 ?_
  rintro c (_ | ⟨_, _ | ⟨_, ⟨⟩⟩⟩)
  · refine Predicate.test_touches.2 ⟨_, diagonalLine_envelope, Envelope.intersects_iff.2 ?_⟩
    norm_num at hs ⊢
    exact hs
  · refine Predicate.test_touches.2 ⟨_, diagonalLine_envelope, Envelope.intersects_iff.2 ?_⟩
    norm_num at hc ⊢
    exact hc

/-- A line through two squares that overlap is found. -/
theorem Plan.diagonal_line_kept :
    ∃ found, (gathering .lines (touchesBoth 2 1)).execute .lines (.ofList [diagonalLine]) =
        .ok found ∧ found.Perm [diagonalLine] := by
  have ch : (touchesBoth 2 1).Charted :=
    touchesBoth_charted (by norm_num) (by norm_num) (by norm_num) (by norm_num)
  have bounded : (touchesBoth 2 1).bound? = some (Predicate.narrow ⟨0, 0, 2, 2⟩ ⟨1, 1, 4, 4⟩) := rfl
  have touching : Envelope.Touching (touchesBoth 2 1).frames := by
    rintro e (_ | ⟨_, _ | ⟨_, ⟨⟩⟩⟩) f (_ | ⟨_, _ | ⟨_, ⟨⟩⟩⟩) <;>
      exact Envelope.intersects_iff.2 (by norm_num)
  obtain ⟨found, run, -, -, all, -⟩ := execute_charted diagonalLine_charted ch bounded .lines
  have matched : [diagonalLine].filter ((touchesBoth 2 1).test ·) = [diagonalLine] :=
    List.filter_eq_self.2 fun f hf =>
      List.mem_singleton.1 hf ▸ test_touchesBoth (by norm_num) (by norm_num)
  exact ⟨found, run, (all touching).trans (.of_eq matched)⟩

/-- A line through two squares that are apart is not found. -/
theorem Plan.diagonal_line_lost :
    (touchesBoth 1 3).test diagonalLine = true ∧
      (gathering .lines (touchesBoth 1 3)).execute .lines (.ofList [diagonalLine]) = .ok [] := by
  refine ⟨test_touchesBoth (by norm_num) (by norm_num), ?_⟩
  have apart : Predicate.narrow (⟨0, 0, 1, 1⟩ : Envelope ℝ) ⟨3, 3, 4, 4⟩ =
      Envelope.ofPoint ⟨0, 0⟩ := by
    unfold Predicate.narrow Envelope.intersection?
    rw [if_neg (by norm_num [Envelope.intersects])]
    rfl
  have bounded : (touchesBoth 1 3).bound? = some (Envelope.ofPoint ⟨0, 0⟩) := congrArg some apart
  have origin : (⟨0, 0⟩ : Point ℝ).isValid = true :=
    Point.isValid_iff.2 (by norm_num [Scalar.isFinite])
  have far : FeatureIndex.near (Envelope.ofPoint (⟨0, 0⟩ : Point ℝ)) diagonalLine = false := by
    unfold FeatureIndex.near
    rw [diagonalLine_envelope, Envelope.parts_ofPoint origin]
    norm_num [Envelope.intersects, Envelope.upright, Envelope.ofPoint, Envelope.lowerOf,
      Envelope.upperOf]
  have ex : (gathering .lines (touchesBoth 1 3)).Executable .lines := ⟨rfl, rfl⟩
  have perm : ((gathering .lines (touchesBoth 1 3)).answer (.ofList [diagonalLine])).Perm _ :=
    answer_perm rfl bounded [diagonalLine]
  rw [List.filter_cons, far] at perm
  rw [ex.execute, perm.eq_nil]

end Sample

end Whereabouts
