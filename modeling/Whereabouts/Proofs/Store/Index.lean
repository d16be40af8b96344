import Mathlib.Data.List.Perm.Basic
import Whereabouts.Proofs.Enrich.Each

/-!
# What an index gives

However the entries of an index are packed, an index gives for an envelope exactly the features that
were put into it and whose rectangle touches the envelope, each as often as it was put in.

* `Packing.pack_perm`: packing loses no entry and adds none.
* `FeatureIndex.candidates_perm`: the candidates are the features that lie near the envelope.
* `Plan.answer_perm`: the answer to a plan without a limit is a scan of all features, in another
  order.
-/

namespace Whereabouts

/-- Choosing more narrowly loses nothing just where all that is chosen is in the narrower choice. -/
lemma filter_and_perm_iff {τ : Type} {features : List τ} {p q : τ → Bool} :
    (features.filter fun f => p f && q f).Perm (features.filter q) ↔
      ∀ f ∈ features, q f = true → p f = true := by
  constructor
  · intro perm f mem holds
    have both := List.mem_filter.1 (perm.mem_iff.2 (List.mem_filter.2 ⟨mem, holds⟩))
    exact (Bool.and_eq_true_iff.1 both.2).1
  · intro imp
    refine List.Perm.of_eq (List.filter_congr fun f mem => ?_)
    cases holds : q f with
    | true => rw [imp f mem holds, Bool.and_self]
    | false => exact Bool.and_false _

namespace Packing

variable {α τ : Type}

/-- The last item of a list exchanged with an earlier one. -/
lemma exchangeLast_perm (place : Nat) (entries : List (Indexed α τ)) :
    (exchangeLast place entries).Perm entries := by
  unfold exchangeLast
  split
  next chosen rest last hd hl =>
    have rest_eq : entries.drop (place + 1) = rest := by
      rw [← List.tail_drop, hd]
      rfl
    rw [rest_eq] at hl
    have ends : rest.dropLast ++ [last] = rest := List.dropLast_append_getLast? last hl
    have parts : entries.take place ++ chosen :: rest = entries := by
      rw [← hd, List.take_append_drop]
    conv_rhs => rw [← parts, ← ends]
    rw [List.append_assoc]
    apply List.Perm.append_left
    have front : (last :: rest.dropLast ++ [chosen]).Perm (chosen :: last :: rest.dropLast) :=
      List.perm_append_singleton chosen _
    exact front.trans ((List.perm_append_singleton last _).symm.cons chosen)
  next => exact .refl entries

variable [Scalar α]

/-- Selecting changes the order of the entries, and nothing else. -/
lemma select_perm (key : Indexed α τ → α) (size : Nat) (entries : List (Indexed α τ)) :
    (select key size entries).Perm entries := by
  unfold select
  split
  · split
    · exact exchangeLast_perm _ _
    · exact List.mergeSort_perm _ _
  · exact .refl _

/-- Cutting into slabs loses no entry. -/
lemma flatten_slabs_perm (key : Indexed α τ → α) (size count : Nat) (entries : List (Indexed α τ)) :
    (slabs key size count entries).flatten.Perm entries := by
  induction count generalizing entries with
  | zero => simp [slabs]
  | succ count ih =>
    unfold slabs
    split
    · simp
    · rw [List.flatten_cons]
      have rest := (ih ((select key size entries).drop size)).append_left
        ((select key size entries).take size)
      rw [List.take_append_drop] at rest
      exact rest.trans (select_perm key size entries)

/-- Cutting into slabs changes the order of the entries, and nothing else. -/
lemma flatMap_cut_perm (key : Indexed α τ → α) (count : Nat) (entries : List (Indexed α τ))
    {f : List (Indexed α τ) → List (Indexed α τ)} (h : ∀ slab, (f slab).Perm slab) :
    ((cut key count entries).flatMap f).Perm entries := by
  have each : ((cut key count entries).flatMap f).Perm (cut key count entries).flatten := by
    rw [← List.flatMap_id]
    exact List.Perm.flatMap_left _ fun slab _ => h slab
  exact each.trans (flatten_slabs_perm key _ count entries)

/-- Packing to a depth changes the order of the entries, and nothing else. -/
lemma packWithin_perm (depth : Nat) (entries : List (Indexed α τ)) :
    (packWithin depth entries).Perm entries := by
  induction depth generalizing entries with
  | zero => exact List.reverse_perm entries
  | succ depth ih =>
    unfold packWithin
    split
    · exact List.reverse_perm entries
    · apply flatMap_cut_perm
      intro slab
      exact flatMap_cut_perm _ _ slab ih

/-- Packing loses no entry and adds none. -/
lemma pack_perm (entries : List (Indexed α τ)) : (pack entries).Perm entries :=
  packWithin_perm entries.length entries

/-- A leaf holds its entries backwards. -/
lemma pack_few {entries : List (Indexed α τ)} (few : entries.length ≤ capacity) :
    pack entries = entries.reverse := by
  unfold pack
  cases entries.length with
  | zero => rfl
  | succ depth =>
    unfold packWithin
    exact if_pos few

end Packing

namespace FeatureIndex

variable {α τ : Type} [Scalar α]

/-- The entries that touch one of the parts, each once. -/
lemma touching_perm (entries : List (Indexed α τ)) (parts : List (Envelope α)) :
    (touching entries parts).Perm
      (entries.filter fun entry => parts.any fun part => entry.extent.intersects part.upright) := by
  induction parts generalizing entries with
  | nil => simp [touching]
  | cons part parts ih =>
    rw [touching, List.partition_eq_filter_filter]
    refine ((ih _).append_left _).trans ?_
    -- what touches the first part, and of the others what touches one of the rest
    have split := List.filter_append_perm (fun entry => entry.extent.intersects part.upright)
      (entries.filter fun entry => (part :: parts).any fun part =>
        entry.extent.intersects part.upright)
    refine List.Perm.trans (List.Perm.of_eq ?_) split
    rw [List.filter_filter, List.filter_filter, List.filter_filter]
    congr 1
    · apply List.filter_congr
      intro entry _
      cases h : entry.extent.intersects part.upright <;> simp [h]
    · apply List.filter_congr
      intro entry _
      cases h : entry.extent.intersects part.upright <;> simp [h]

/-- Nothing touches where there are no entries. -/
lemma touching_nil (parts : List (Envelope α)) :
    touching ([] : List (Indexed α τ)) parts = [] := by
  induction parts with
  | nil => rfl
  | cons part parts ih => exact ih

/-- Entries of one extent touch an envelope together or not at all. -/
lemma touching_alike {entries : List (Indexed α τ)} {extent : Envelope α}
    (alike : ∀ e ∈ entries, e.extent = extent) (parts : List (Envelope α)) :
    touching entries parts = entries ∨ touching entries parts = [] := by
  induction parts with
  | nil => exact .inr rfl
  | cons part parts ih =>
    unfold touching
    rw [List.partition_eq_filter_filter]
    dsimp only
    cases touch : extent.intersects part.upright with
    | true =>
      left
      rw [List.filter_eq_self.2, List.filter_eq_nil_iff.2, touching_nil, List.append_nil]
      · intro e he
        simp [alike e he, touch]
      · intro e he
        rw [alike e he, touch]
    | false =>
      rw [List.filter_eq_nil_iff.2, List.filter_eq_self.2, List.nil_append]
      · exact ih
      · intro e he
        simp [alike e he, touch]
      · intro e he
        simp [alike e he, touch]

variable [Feature α τ]

/-- Whether the rectangle of a feature touches an envelope. -/
def near (bound : Envelope α) (feature : τ) : Bool :=
  (Feature.envelope? feature).any fun own =>
    bound.parts.any fun part => own.upright.intersects part.upright

/-- Choosing among the entries of features is choosing among the features that have a place. -/
lemma map_filter_entries (features : List τ) (p : Indexed α τ → Bool) :
    ((features.filterMap entry?).filter p).map (·.feature) =
      features.filter fun f => (Feature.envelope? f).any fun own => p ⟨f, own.upright⟩ := by
  induction features with
  | nil => rfl
  | cons feature features ih =>
    rw [List.filterMap_cons, List.filter_cons]
    cases e : Feature.envelope? (α := α) feature with
    | none => simpa [ entry?, e] using ih
    | some own =>
      simp only [ entry?, e, Option.map_some, Option.any_some, List.filter_cons]
      split
      · exact congrArg (feature :: ·) ih
      · exact ih

/-- The candidates for an envelope are the features that lie near it. -/
lemma candidates_perm (features : List τ) (bound : Envelope α) :
    ((ofList features).candidates bound).Perm (features.filter (near bound)) := by
  have packed := (touching_perm (Packing.pack (features.filterMap entry?)) bound.parts).trans
    ((Packing.pack_perm (features.filterMap entry?)).filter _)
  exact (packed.map _).trans (List.Perm.of_eq (map_filter_entries features _))

end FeatureIndex

namespace Scalar

variable {α : Type} [Scalar α] [Std.TransCmp (Scalar.rank (α := α))] {a b c : α}

/-- What ranks no higher than something ranks no higher than what is above that. -/
lemma rankLe_trans (ab : rankLe a b = true) (bc : rankLe b c = true) : rankLe a c = true := by
  unfold rankLe at *
  exact Std.TransCmp.isLE_trans ab bc

/-- Of two numbers one ranks no higher than the other. -/
lemma rankLe_total (a b : α) : (rankLe a b || rankLe b a) = true := by
  unfold rankLe
  rw [Bool.or_eq_true]
  by_cases ab : (rank a b).isLE = true
  · exact .inl ab
  · right
    rw [Std.OrientedCmp.lt_of_not_isLE ab]
    rfl

end Scalar

namespace Plan

variable {α τ : Type} [Scalar α] [Feature α τ]

section Within

variable (layer : Layer) (point : Point α) (metres : α) (modes : List Mode) (order : Order α)
  (limit : Option Nat)

/-- What lies within a distance is looked up in the square around the point. -/
lemma bound_within :
    (ofConditions layer (.within point metres :: modeConditions modes) order limit).predicate.bound? =
      some (Envelope.aroundMetres point metres) := by
  cases modes <;> rfl

/-- Without modes a feature of any mode will do. -/
lemma test_within (feature : τ) :
    (ofConditions layer (.within point metres :: modeConditions modes) order limit).predicate.test
        feature = (decide (Feature.distance feature point ≤ metres) &&
      (modes.isEmpty || (Feature.mode? (α := α) feature).any modes.contains)) := by
  cases modes with
  | nil => exact (Bool.and_true _).symm
  | cons mode modes => exact congrArg (_ && ·) (Bool.and_true _)

end Within

/-- Arranging changes the order of the features, and nothing else. -/
lemma arrange_perm (plan : Plan α) (features : List τ) : (plan.arrange features).Perm features := by
  unfold arrange
  split
  · exact .refl _
  · refine ((List.mergeSort_perm _ _).map _).trans (List.Perm.of_eq ?_)
    rw [List.map_map]
    exact List.map_id _

/-- The features are arranged by their keys. -/
lemma arrange_sorted [Std.TransCmp (Scalar.rank (α := α))] {plan : Plan α}
    (ordered : plan.order ≠ .unordered) (features : List τ) :
    (plan.arrange features).Pairwise fun f g => Scalar.rankLe (plan.key f) (plan.key g) = true := by
  unfold arrange
  split
  next e => exact absurd e ordered
  next =>
    have sorted : ((features.map fun f => (plan.key f, f)).mergeSort fun a b =>
        Scalar.rankLe a.1 b.1).Pairwise fun a b => Scalar.rankLe a.1 b.1 = true := by
      apply List.pairwise_mergeSort
      · exact fun _ _ _ ab bc => Scalar.rankLe_trans ab bc
      · exact fun a b => Scalar.rankLe_total a.1 b.1
    rw [List.pairwise_map]
    apply sorted.imp_of_mem
    intro a b ha hb ab
    obtain ⟨f, -, rfl⟩ := List.mem_map.1 ((List.mergeSort_perm _ _).mem_iff.1 ha)
    obtain ⟨g, -, rfl⟩ := List.mem_map.1 ((List.mergeSort_perm _ _).mem_iff.1 hb)
    exact ab

/-- Features with equal keys keep their order. -/
lemma arrange_alike [Std.TransCmp (Scalar.rank (α := α))] {plan : Plan α}
    {features : List τ} {key : α} (alike : ∀ f ∈ features, plan.key f = key) :
    plan.arrange features = features := by
  unfold arrange
  split
  · rfl
  · dsimp only
    rw [List.mergeSort_of_pairwise, List.map_map]
    · exact List.map_id _
    · rw [List.pairwise_map]
      refine List.pairwise_of_forall_mem_list fun f hf g hg => ?_
      rw [alike f hf, alike g hg]
      exact congrArg Ordering.isLE Std.ReflCmp.compare_self

/-- A plan without a limit is answered with the features that lie near its bound and satisfy its
predicate, each once. -/
lemma answer_perm {plan : Plan α} {bound : Envelope α} (unlimited : plan.limit = none)
    (bounded : plan.predicate.bound? = some bound) (features : List τ) :
    (plan.answer (.ofList features)).Perm
      (features.filter fun f => FeatureIndex.near bound f && plan.predicate.test f) := by
  have hits : plan.hits? (FeatureIndex.ofList (α := α) features) = some
      (((FeatureIndex.ofList features).candidates bound).filter fun f => plan.predicate.test f) := by
    unfold hits?
    rw [bounded]
    rfl
  unfold answer cut
  rw [unlimited, hits]
  refine (plan.arrange_perm _).trans (((FeatureIndex.candidates_perm features bound).filter _).trans
    (List.Perm.of_eq ?_))
  rw [List.filter_filter]
  apply List.filter_congr
  intro f _
  exact Bool.and_comm _ _

/-- The answer to a plan is sorted, whatever the index holds and the limit is. -/
lemma answer_sorted [Std.TransCmp (Scalar.rank (α := α))] {plan : Plan α}
    (ordered : plan.order ≠ .unordered) (index : FeatureIndex α τ) :
    (plan.answer index).Pairwise fun f g => Scalar.rankLe (plan.key f) (plan.key g) = true := by
  have sorted := arrange_sorted ordered ((plan.hits? index).getD [])
  unfold answer cut
  split
  next n _ => exact sorted.sublist (List.take_sublist n _)
  next => exact sorted

end Plan

end Whereabouts
