import Whereabouts.Geometry.Binary64
import Whereabouts.Geometry.Ellipsoid.Area
import Whereabouts.Proofs.Enrich.Isolation

/-!
# Resolving one point

A point can be resolved alone or in a batch of its own. Both ask the gateway the same question. The
batch makes sure that there is one slot in the answer; alone, the last slot is taken whatever their
number, and no slot stands for no boundaries. So an answer with another number of slots, which fails
the batch, becomes the location of the point, or the claim that no boundary lies around it.

* `Gateway.Concur`: resolving a point alone and in a batch ends in the same way.
* `Gateway.AlignedFor`: a point is answered in one slot where it is answered at all.
* `Gateway.resolve_single`: the two ways, whatever the gateway answers.
* `Gateway.misaligned_town_lost`: an answer on which they differ.
-/

namespace Whereabouts.Gateway

variable {σ α : Type} [Scalar α] {g : Gateway (StateM σ) α} {point : Point α} {s s' : σ}
  {slots : List (List (Boundary α))} {cause : StoreError}

/-- A point is answered in one slot where it is answered at all. -/
def AlignedFor (g : Gateway (StateM σ) α) (point : Point α) (s : σ) : Prop :=
  ∀ slots s', (g.containingAll [point]).run.run s = (.ok slots, s') → slots.length = 1

variable [Measured α]

/-- A point resolved alone ends as it does in a batch of its own: with the same failure, or with the
same location, and the gateway is left in the same state. -/
def Concur (g : Gateway (StateM σ) α) (point : Point α) (s : σ) : Prop :=
  (g.resolveAll [point]).run.run s = ((g.resolve point).run.run s).map (Except.map ([·])) id

/-- A single point is resolved from the last slot that is answered. -/
lemma run_resolve_of_answer (run : (g.containingAll [point]).run.run s = (.ok slots, s')) :
    (g.resolve point).run.run s =
      (.ok (Hierarchy.ofBoundaries (slots.getLast?.getD [])), s') :=
  run_bind_ok (run_bind_ok run)

/-- A single point is not resolved where the gateway refuses. -/
lemma run_resolve_of_refusal (run : (g.containingAll [point]).run.run s = (.error cause, s')) :
    (g.resolve point).run.run s = (.error cause, s') :=
  run_bind_refused (run_bind_refused run)

/-- Several points are not resolved where the gateway refuses. -/
lemma run_resolveAll_of_refusal {points : List (Point α)} (some : points ≠ [])
    (run : (g.containingAll points).run.run s = (.error cause, s')) :
    (g.resolveAll points).run.run s = (.error cause, s') := by
  rw [resolveAll_eq_ask g some]
  exact run_bind_refused run

/-- Several points are not resolved where the number of slots is not theirs. -/
lemma run_resolveAll_of_misaligned {points : List (Point α)} (some : points ≠ [])
    (run : (g.containingAll points).run.run s = (.ok slots, s'))
    (ne : slots.length ≠ points.length) :
    (g.resolveAll points).run.run s =
      (.error (.misaligned .boundaries slots.length points.length), s') := by
  rw [resolveAll_eq_ask g some, run_bind_ok run]
  exact run_bind_refused (run_misaligned .boundaries ne s')

/-- Both ways concur where the gateway refuses. -/
lemma concur_of_refusal (run : (g.containingAll [point]).run.run s = (.error cause, s')) :
    g.Concur point s := by
  unfold Concur
  rw [run_resolveAll_of_refusal (List.cons_ne_nil _ _) run, run_resolve_of_refusal run]
  rfl

/-- Both ways concur where one slot is answered. -/
lemma concur_of_single {slot : List (Boundary α)}
    (run : (g.containingAll [point]).run.run s = (.ok [slot], s')) : g.Concur point s := by
  have an : Answers (g.containingAll [point]) [point].length s [slot] s' := ⟨run, rfl⟩
  unfold Concur
  rw [an.run_resolveAll (List.cons_ne_nil _ _), run_resolve_of_answer run]
  rfl

/-- The two ways end alike just where the answer has one slot. -/
lemma concur_iff : g.Concur point s ↔ g.AlignedFor point s := by
  cases run : (g.containingAll [point]).run.run s with
  | mk answer s' =>
    cases answer with
    | error cause =>
      refine ⟨fun _ slots s1 run' => ?_, fun _ => concur_of_refusal run⟩
      cases run.symm.trans run'
    | ok slots =>
      constructor
      · intro same slots' s1 run'
        cases run.symm.trans run'
        by_contra ne
        unfold Concur at same
        rw [run_resolveAll_of_misaligned (List.cons_ne_nil _ _) run ne,
          run_resolve_of_answer run] at same
        cases same
      · intro aligned
        obtain ⟨slot, rfl⟩ := List.length_eq_one_iff.1 (aligned slots s' run)
        exact concur_of_single run

/-- **A point resolved alone agrees with its batch just where the answer has one slot.** Take any
gateway and any point. Where a batch of this one point succeeds, the point alone has the same
location; where the point alone fails, the batch has the same failure; and nothing else agrees: an
answer with more slots than one, or with none, fails the batch as misaligned, while the point alone
is resolved by the last slot, or has no location. -/
theorem resolve_single (g : Gateway (StateM σ) α) (point : Point α) (s : σ) :
    (g.Concur point s ↔ g.AlignedFor point s) ∧
    (∀ locations s', (g.resolveAll [point]).run.run s = (.ok locations, s') →
      ∃ location, locations = [location] ∧ (g.resolve point).run.run s = (.ok location, s')) ∧
    (∀ cause s', (g.resolve point).run.run s = (.error cause, s') →
      (g.resolveAll [point]).run.run s = (.error cause, s')) ∧
    (∀ slots s', (g.containingAll [point]).run.run s = (.ok slots, s') → slots.length ≠ 1 →
      (g.resolveAll [point]).run.run s = (.error (.misaligned .boundaries slots.length 1), s') ∧
      (g.resolve point).run.run s =
        (.ok (Hierarchy.ofBoundaries (slots.getLast?.getD [])), s')) := by
  refine ⟨concur_iff, fun locations s' batch => ?_, fun cause s' alone => ?_,
    fun slots s' run ne => ?_⟩
  · cases run : (g.containingAll [point]).run.run s with
    | mk answer s1 =>
      cases answer with
      | error cause =>
        cases batch.symm.trans (run_resolveAll_of_refusal (List.cons_ne_nil _ _) run)
      | ok slots =>
        by_cases one : slots.length = 1
        · obtain ⟨slot, rfl⟩ := List.length_eq_one_iff.1 one
          have an : Answers (g.containingAll [point]) [point].length s [slot] s1 := ⟨run, rfl⟩
          cases batch.symm.trans (an.run_resolveAll (List.cons_ne_nil _ _))
          exact ⟨_, rfl, run_resolve_of_answer run⟩
        · cases batch.symm.trans
            (run_resolveAll_of_misaligned (List.cons_ne_nil _ _) run one)
  · cases run : (g.containingAll [point]).run.run s with
    | mk answer s1 =>
      cases answer with
      | error cause =>
        cases alone.symm.trans (run_resolve_of_refusal run)
        exact run_resolveAll_of_refusal (List.cons_ne_nil _ _) run
      | ok slots => cases alone.symm.trans (run_resolve_of_answer run)
  · exact ⟨run_resolveAll_of_misaligned (List.cons_ne_nil _ _) run ne, run_resolve_of_answer run⟩

section Sample

/-- A gateway that gives one answer to every question about boundaries. -/
def answering (slots : List (List (Boundary Float))) : Gateway (StateM Unit) Float where
  boundaries _ := pure slots
  stops _ := pure []
  lines _ := pure []

def town : Boundary Float where
  id := 1
  level := .city
  names := ⟨[("default", "Town")], List.pairwise_singleton _ _⟩
  population := none
  declaredSize := some 9.0
  area := [⟨[⟨0, 0⟩, ⟨0, 3⟩, ⟨3, 3⟩, ⟨3, 0⟩, ⟨0, 0⟩], []⟩]

/-- With one empty slot too many, a town around a point is lost where the point is resolved alone,
while the batch fails; so it is with the only slot left out. -/
theorem misaligned_town_lost :
    ((answering [[town], []]).resolveAll [⟨1, 1⟩] = throw (.misaligned .boundaries 2 1) ∧
      (answering [[town], []]).resolve ⟨1, 1⟩ = pure none) ∧
    ((answering []).resolveAll [⟨1, 1⟩] = throw (.misaligned .boundaries 0 1) ∧
      (answering []).resolve ⟨1, 1⟩ = pure none) ∧
    ¬ (answering [[town], []]).Concur ⟨1, 1⟩ () := by
  refine ⟨⟨rfl, rfl⟩, ⟨rfl, rfl⟩, fun same => ?_⟩
  cases concur_iff.1 same [[town], []] () rfl

end Sample

end Whereabouts.Gateway
