import Mathlib.Data.List.Forall2
import Mathlib.Data.List.Induction
import Mathlib.Data.List.Nodup
import Mathlib.Data.List.Perm.Basic
import Mathlib.Tactic.Lemma

/-!
# Lists that agree item by item

What is said of two lists that agree one by one, when they are put together, permuted or dealt out,
and what it is to answer a list one by one.

* `mapM_eq_pure`: answering one by one without fail.
* `mapM_eq_ok_iff`: answering one by one where an answer may fail.
* `forall₂_append_iff`, `forall₂_flatten_iff`: lists that are put together.
* `forall₂_perm`, `exists_perm_forall₂`: lists that are permuted.
* `nodup_map_concat_iff`, `foldl_eq_self_of_nodup`: keeping one item of each key, where the keys
  are different.
* `mergeSort_isLE_of_perm`: sorting forgets the order of what is sorted.
* `mergeSort_rank`: sorting by a rank puts together the items of one key.
-/

namespace Whereabouts

variable {β γ δ : Type}

/-- Answering one by one does not fail where no answer does. -/
lemma mapM_eq_pure {m : Type → Type} [Monad m] [LawfulMonad m] {f : β → m γ} {g : β → γ}
    {xs : List β} (h : ∀ x ∈ xs, f x = pure (g x)) : xs.mapM f = pure (xs.map g) := by
  induction xs with
  | nil => rfl
  | cons x xs ih =>
    rw [List.mapM_cons, h x List.mem_cons_self, ih fun y hy => h y (List.mem_cons_of_mem x hy),
      pure_bind, pure_bind]
    rfl

/-- Answering one by one succeeds with the answers to each. -/
lemma mapM_eq_ok_iff {ε : Type} {f : β → Except ε γ} {xs : List β} {ys : List γ} :
    xs.mapM f = .ok ys ↔ List.Forall₂ (fun x y => f x = .ok y) xs ys := by
  induction xs generalizing ys with
  | nil =>
    rw [List.mapM_nil, List.forall₂_nil_left_iff]
    exact ⟨fun h => (Except.ok.inj h).symm, fun h => congrArg _ h.symm⟩
  | cons x xs ih =>
    rw [List.mapM_cons, List.forall₂_cons_left_iff]
    cases first : f x with
    | error e =>
      refine ⟨nofun, ?_⟩
      rintro ⟨_, _, ⟨⟩, -⟩
    | ok y =>
      cases rest : xs.mapM f with
      | error e =>
        refine ⟨nofun, ?_⟩
        rintro ⟨_, _, -, each, -⟩
        cases rest.symm.trans (ih.2 each)
      | ok zs =>
        constructor
        · rintro ⟨⟩
          exact ⟨y, zs, rfl, ih.1 rest, rfl⟩
        · rintro ⟨_, _, ⟨⟩, each, rfl⟩
          cases rest.symm.trans (ih.2 each)
          rfl

/-- Two lists together agree with what falls in two parts that agree with each. -/
lemma forall₂_append_iff {R : β → γ → Prop} {xs ys : List β} {zs : List γ} :
    List.Forall₂ R (xs ++ ys) zs ↔
      ∃ as bs, List.Forall₂ R xs as ∧ List.Forall₂ R ys bs ∧ zs = as ++ bs := by
  induction xs generalizing zs with
  | nil =>
    constructor
    · exact fun h => ⟨[], zs, .nil, h, rfl⟩
    · rintro ⟨as, bs, left, right, rfl⟩
      cases left
      exact right
  | cons x xs ih =>
    constructor
    · intro h
      cases h with
      | cons r rest =>
        obtain ⟨as, bs, left, right, rfl⟩ := ih.1 rest
        exact ⟨_ :: as, bs, .cons r left, right, rfl⟩
    · rintro ⟨as, bs, left, right, rfl⟩
      cases left with
      | cons r left => exact .cons r (ih.2 ⟨_, bs, left, right, rfl⟩)

/-- What agrees with the groups of a list, put together, comes in groups itself. -/
lemma forall₂_flatten_iff {R : β → γ → Prop} {bs : List (List β)} {cs : List γ} :
    List.Forall₂ R bs.flatten cs ↔
      ∃ groups, List.Forall₂ (List.Forall₂ R) bs groups ∧ cs = groups.flatten := by
  induction bs generalizing cs with
  | nil =>
    constructor
    · intro h
      cases h
      exact ⟨[], .nil, rfl⟩
    · rintro ⟨groups, each, rfl⟩
      cases each
      exact .nil
  | cons b bs ih =>
    rw [List.flatten_cons, forall₂_append_iff]
    constructor
    · rintro ⟨group, rest, first, others, rfl⟩
      obtain ⟨groups, each, rfl⟩ := ih.1 others
      exact ⟨group :: groups, .cons first each, rfl⟩
    · rintro ⟨groups, each, rfl⟩
      cases each with
      | cons first each => exact ⟨_, _, first, ih.2 ⟨_, each, rfl⟩, rfl⟩

/-- Lists agree by way of a middle where there is a list of middles. -/
lemma forall₂_comp_iff {R : β → γ → Prop} {S : γ → δ → Prop} {bs : List β} {ds : List δ} :
    List.Forall₂ (fun b d => ∃ c, R b c ∧ S c d) bs ds ↔
      ∃ cs, List.Forall₂ R bs cs ∧ List.Forall₂ S cs ds := by
  constructor
  · intro h
    induction h with
    | nil => exact ⟨[], .nil, .nil⟩
    | cons step _ ih =>
      obtain ⟨c, r, s⟩ := step
      obtain ⟨cs, left, right⟩ := ih
      exact ⟨c :: cs, .cons r left, .cons s right⟩
  · rintro ⟨cs, left, right⟩
    induction left generalizing ds with
    | nil =>
      cases right
      exact .nil
    | cons r _ ih =>
      cases right with
      | cons s right => exact .cons ⟨_, r, s⟩ (ih right)

/-- A list agrees with the images of its items where it is the list of images. -/
lemma forall₂_eq_map_iff {f : β → γ} {bs : List β} {cs : List γ} :
    List.Forall₂ (fun b c => c = f b) bs cs ↔ cs = bs.map f := by
  induction bs generalizing cs with
  | nil => rw [List.forall₂_nil_left_iff, List.map_nil]
  | cons b bs ih =>
    rw [List.forall₂_cons_left_iff, List.map_cons]
    constructor
    · rintro ⟨_, _, rfl, each, rfl⟩
      rw [ih.1 each]
    · rintro rfl
      exact ⟨_, _, rfl, ih.2 rfl, rfl⟩

/-- Items agree by way of something where there is a list of such things. -/
lemma forall₂_exists_iff {R : β → γ → Prop} {f : β → γ → δ} {bs : List β} {ds : List δ} :
    List.Forall₂ (fun b d => ∃ c, R b c ∧ d = f b c) bs ds ↔
      ∃ cs, List.Forall₂ R bs cs ∧ ds = bs.zipWith f cs := by
  induction bs generalizing ds with
  | nil =>
    constructor
    · intro h
      cases h
      exact ⟨[], .nil, rfl⟩
    · rintro ⟨cs, each, rfl⟩
      cases each
      exact .nil
  | cons b bs ih =>
    constructor
    · intro h
      cases h with
      | cons first rest =>
        obtain ⟨c, r, rfl⟩ := first
        obtain ⟨cs, each, rfl⟩ := ih.1 rest
        exact ⟨c :: cs, .cons r each, rfl⟩
    · rintro ⟨cs, each, rfl⟩
      cases each with
      | cons r each => exact .cons ⟨_, r, rfl⟩ (ih.2 ⟨_, each, rfl⟩)

/-- Where every item has something that agrees with it, there is a list of them. -/
lemma exists_forall₂ {R : β → γ → Prop} {bs : List β} (some : ∀ b ∈ bs, ∃ c, R b c) :
    ∃ cs, List.Forall₂ R bs cs := by
  induction bs with
  | nil => exact ⟨[], .nil⟩
  | cons b bs ih =>
    obtain ⟨c, r⟩ := some b List.mem_cons_self
    obtain ⟨cs, each⟩ := ih fun b there => some b (List.mem_cons_of_mem _ there)
    exact ⟨c :: cs, .cons r each⟩

/-- Pairs agree with items where their two halves do. -/
lemma forall₂_zip_iff {η : Type} {R : β → γ → Prop} {S : β → δ → Prop} {f : β → δ → η}
    {bs : List β} {pairs : List (γ × η)} :
    List.Forall₂ (fun b pair => R b pair.1 ∧ ∃ d, S b d ∧ pair.2 = f b d) bs pairs ↔
      ∃ cs ds, List.Forall₂ R bs cs ∧ List.Forall₂ S bs ds ∧ pairs = cs.zip (bs.zipWith f ds) := by
  induction bs generalizing pairs with
  | nil =>
    constructor
    · intro h
      cases h
      exact ⟨[], [], .nil, .nil, rfl⟩
    · rintro ⟨cs, ds, each, each', rfl⟩
      cases each
      exact .nil
  | cons b bs ih =>
    constructor
    · intro h
      cases h with
      | @cons _ pair _ _ first rest =>
        obtain ⟨c, x⟩ := pair
        obtain ⟨r, d, s, rfl⟩ := first
        obtain ⟨cs, ds, each, each', rfl⟩ := ih.1 rest
        exact ⟨c :: cs, d :: ds, .cons r each, .cons s each', rfl⟩
    · rintro ⟨cs, ds, each, each', rfl⟩
      cases each with
      | cons r each =>
        cases each' with
        | cons s each' => exact .cons ⟨r, _, s, rfl⟩ (ih.2 ⟨_, _, each, each', rfl⟩)

/-- Items that agree one by one are permuted together. -/
lemma forall₂_perm {R : β → γ → Prop} {xs ys : List β} {zs : List γ} (perm : xs.Perm ys)
    (each : List.Forall₂ R xs zs) :
    ∃ ws, List.Forall₂ R ys ws ∧ (xs.zip zs).Perm (ys.zip ws) := by
  induction perm generalizing zs with
  | nil => exact ⟨zs, each, .refl _⟩
  | cons x _ ih =>
    cases each with
    | cons r each =>
      obtain ⟨ws, each', perm⟩ := ih each
      exact ⟨_ :: ws, .cons r each', perm.cons _⟩
  | swap x y xs =>
    cases each with
    | cons r each =>
      cases each with
      | cons r' each => exact ⟨_, .cons r' (.cons r each), .swap _ _ _⟩
  | trans _ _ ih ih' =>
    obtain ⟨ws, each', perm⟩ := ih each
    obtain ⟨ws', each'', perm'⟩ := ih' each'
    exact ⟨ws', each'', perm.trans perm'⟩

/-- Where each part agrees, the whole agrees. -/
lemma forall₂_flatMap {R : γ → δ → Prop} {l : List β} {g : β → List γ}
    {h : β → List δ} (each : ∀ b ∈ l, List.Forall₂ R (g b) (h b)) :
    List.Forall₂ R (l.flatMap g) (l.flatMap h) := by
  induction l with
  | nil => exact .nil
  | cons b l ih =>
    rw [List.flatMap_cons, List.flatMap_cons]
    exact List.rel_append (each b List.mem_cons_self)
      (ih fun b hb => each b (List.mem_cons_of_mem _ hb))

/-- Where the items of two lists agree one by one, they do so in every order. -/
lemma exists_perm_forall₂ {R : β → γ → Prop} {bs bs' : List β} {cs cs' : List γ}
    (agree : List.Forall₂ R bs cs) (perm : bs.Perm bs') (perm' : cs.Perm cs') :
    ∃ ordered, ordered.Perm bs' ∧ List.Forall₂ R ordered cs' := by
  have comp : Relation.Comp (List.Forall₂ R) List.Perm bs cs' := ⟨cs, agree, perm'⟩
  rw [List.forall₂_comp_perm_eq_perm_comp_forall₂] at comp
  obtain ⟨ordered, same, agree'⟩ := comp
  exact ⟨ordered, same.symm.trans perm, agree'⟩

section Keys

variable {κ : Type} {key : β → κ}

/-- Keys stay different where an item of a new key is put at the end. -/
lemma nodup_map_concat_iff {xs : List β} {x : β} :
    ((xs ++ [x]).map key).Nodup ↔ (xs.map key).Nodup ∧ ∀ y ∈ xs, key y ≠ key x := by
  rw [List.map_append, List.nodup_append, List.map_singleton]
  simp only [List.nodup_singleton, true_and, List.forall_mem_map, List.forall_mem_singleton]

/-- Items of different keys are all kept, where an item of a new key is put at the end. -/
lemma foldl_eq_self_of_nodup {keep : List β → β → List β}
    (new : ∀ kept x, (∀ y ∈ kept, key y ≠ key x) → keep kept x = kept ++ [x]) {xs : List β}
    (distinct : (xs.map key).Nodup) : xs.foldl keep [] = xs := by
  induction xs using List.reverseRecOn with
  | nil => rfl
  | append_singleton xs x ih =>
    obtain ⟨before, apart⟩ := nodup_map_concat_iff.1 distinct
    rw [List.foldl_concat, ih before]
    exact new xs x apart

end Keys

section Sorting

variable (cmp : β → β → Ordering) [Std.TransCmp cmp]

/-- What is sorted by comparing its items comes in order. -/
lemma pairwise_mergeSort_isLE (xs : List β) :
    (xs.mergeSort fun a b => (cmp a b).isLE).Pairwise fun a b => (cmp a b).isLE = true := by
  apply List.pairwise_mergeSort
  · exact fun _ _ _ => Std.TransCmp.isLE_trans
  · intro a b
    rw [Bool.or_eq_true, Decidable.or_iff_not_imp_left]
    intro h
    exact congrArg Ordering.isLE (Std.OrientedCmp.lt_of_not_isLE h)

/-- Sorting forgets the order of what is sorted, where no two items stand at one place. -/
lemma mergeSort_isLE_of_perm {xs ys : List β} (perm : xs.Perm ys)
    (apart : ∀ a ∈ xs, ∀ b ∈ xs, cmp a b = .eq → a = b) :
    xs.mergeSort (fun a b => (cmp a b).isLE) = ys.mergeSort fun a b => (cmp a b).isLE := by
  have sorted : (xs.mergeSort fun a b => (cmp a b).isLE).Perm
      (ys.mergeSort fun a b => (cmp a b).isLE) :=
    (List.mergeSort_perm xs _).trans (perm.trans (List.mergeSort_perm ys _).symm)
  refine sorted.eq_of_pairwise (fun a b ha hb ab ba => ?_) (pairwise_mergeSort_isLE cmp xs)
    (pairwise_mergeSort_isLE cmp ys)
  have hb := perm.mem_iff.2 (List.mem_mergeSort.1 hb)
  exact apart a (List.mem_mergeSort.1 ha) b hb (Std.OrientedCmp.isLE_antisymm ab ba)

end Sorting

section Ranking

variable {κ : Type} (key : β → κ) (rank : κ → Nat)

/-- Whether an item may stand before another. -/
def rankedLE (a b : β) : Bool := rank (key a) ≤ rank (key b)

/-- An item ranks no higher than another one where its key does not. -/
lemma rankedLE_iff {a b : β} : rankedLE key rank a b = true ↔ rank (key a) ≤ rank (key b) :=
  decide_eq_true_iff

/-- An item ranks no higher than those above the ones it ranks no higher than. -/
lemma rankedLE_trans (a b c : β) (ab : rankedLE key rank a b = true)
    (bc : rankedLE key rank b c = true) : rankedLE key rank a c = true :=
  decide_eq_true (Nat.le_trans (of_decide_eq_true ab) (of_decide_eq_true bc))

/-- Of two items one ranks no higher than the other. -/
lemma rankedLE_total (a b : β) : (rankedLE key rank a b || rankedLE key rank b a) = true := by
  simpa [rankedLE] using Nat.le_total (rank (key a)) (rank (key b))

variable [DecidableEq κ]

/-- Sorting by a rank keeps the order of the items of one key. -/
lemma filter_mergeSort_rank (xs : List β) (k : κ) :
    (xs.mergeSort (rankedLE key rank)).filter (fun x => key x = k) =
      xs.filter fun x => key x = k := by
  have perm := (List.mergeSort_perm xs (rankedLE key rank)).filter fun x => decide (key x = k)
  have level : (xs.filter fun x => key x = k).Pairwise fun a b => rankedLE key rank a b = true := by
    refine List.pairwise_of_forall_mem_list fun a ha b hb => ?_
    have ha := of_decide_eq_true (List.mem_filter.1 ha).2
    have hb := of_decide_eq_true (List.mem_filter.1 hb).2
    exact (rankedLE_iff key rank).2 (Nat.le_of_eq (by rw [ha, hb]))
  have kept := List.sublist_mergeSort (rankedLE_trans key rank) (rankedLE_total key rank) level
    List.filter_sublist
  have kept := kept.filter fun x => decide (key x = k)
  rw [List.filter_filter] at kept
  simp only [Bool.and_self] at kept
  exact (kept.eq_of_length perm.length_eq.symm).symm

/-- In ascending items those of the least key come first. -/
lemma filter_append_filter_of_least {xs : List β} {k : κ}
    (ascending : xs.Pairwise fun a b => rank (key a) ≤ rank (key b))
    (least : ∀ x ∈ xs, key x ≠ k → rank k < rank (key x)) :
    xs = (xs.filter fun x => key x = k) ++ xs.filter fun x => key x ≠ k := by
  induction xs with
  | nil => rfl
  | cons x xs ih =>
    obtain ⟨above, ascending⟩ := List.pairwise_cons.1 ascending
    have rest := ih ascending fun y mem => least y (List.mem_cons_of_mem x mem)
    by_cases here : key x = k
    · simp only [List.filter_cons, here, decide_true, if_true, ne_eq, not_true, decide_false]
      exact congrArg (x :: ·) rest
    · have none : ∀ y ∈ x :: xs, key y ≠ k := by
        intro y mem same
        have lt := least x List.mem_cons_self here
        rcases List.mem_cons.1 mem with rfl | mem
        · exact here same
        · exact absurd (above y mem) (same ▸ Nat.not_le.2 lt)
      rw [List.filter_eq_nil_iff.2 fun y mem => by simpa using none y mem,
        List.filter_eq_self.2 fun y mem => by simpa using none y mem]
      rfl

/-- Ascending items are those of the first key, followed by those of the next one, and so on. -/
lemma eq_flatMap_filter {keys : List κ} (distinct : keys.Pairwise fun k l => rank k < rank l)
    {xs : List β} (ascending : xs.Pairwise fun a b => rank (key a) ≤ rank (key b))
    (all : ∀ x ∈ xs, key x ∈ keys) : xs = keys.flatMap fun k => xs.filter fun x => key x = k := by
  induction keys generalizing xs with
  | nil => exact List.eq_nil_iff_forall_not_mem.2 fun x mem => List.not_mem_nil (all x mem)
  | cons k keys ih =>
    obtain ⟨before, distinct⟩ := List.pairwise_cons.1 distinct
    have later {x : β} (mem : x ∈ xs) (ne : key x ≠ k) : key x ∈ keys :=
      (List.mem_cons.1 (all x mem)).resolve_left ne
    have split := filter_append_filter_of_least key rank ascending
      fun x mem ne => before _ (later mem ne)
    have rest := ih distinct (ascending.filter fun x => key x ≠ k) fun x mem =>
      later (List.mem_filter.1 mem).1 (of_decide_eq_true (List.mem_filter.1 mem).2)
    rw [List.flatMap_cons]
    refine split.trans (congrArg (_ ++ ·) (rest.trans (List.flatMap_congr fun l mem => ?_)))
    rw [List.filter_filter]
    refine List.filter_congr fun x _ => ?_
    by_cases same : key x = l
    · have ne : l ≠ k := fun e => absurd (before l mem) (e ▸ Nat.lt_irrefl _)
      simp [same, ne]
    · simp [same]

/-- Sorting by a rank puts the items of the first key first, then those of the next one, and so on,
those of one key in the order in which they came. -/
lemma mergeSort_rank {keys : List κ} (distinct : keys.Pairwise fun k l => rank k < rank l)
    {xs : List β} (all : ∀ x ∈ xs, key x ∈ keys) :
    xs.mergeSort (rankedLE key rank) = keys.flatMap fun k => xs.filter fun x => key x = k := by
  have sorted := List.pairwise_mergeSort (rankedLE_trans key rank) (rankedLE_total key rank) xs
  have ascending := sorted.imp (rankedLE_iff key rank).1
  have grouped := eq_flatMap_filter key rank distinct ascending fun x mem =>
    all x (List.mem_mergeSort.1 mem)
  exact grouped.trans (List.flatMap_congr fun k _ => filter_mergeSort_rank key rank xs k)

end Ranking

/-- What is made of a list one by one is made of its items. -/
lemma exists_of_mem_mapM {f : β → Option γ} {xs : List β} {ys : List γ}
    (made : xs.mapM f = some ys) {y : γ} (mem : y ∈ ys) : ∃ x ∈ xs, f x = some y := by
  induction xs generalizing ys with
  | nil =>
    cases made
    cases mem
  | cons x xs ih =>
    rw [List.mapM_cons] at made
    obtain ⟨first, here, made⟩ := Option.bind_eq_some_iff.1 made
    obtain ⟨rest, there, ⟨⟩⟩ := Option.bind_eq_some_iff.1 made
    rcases List.mem_cons.1 mem with rfl | mem
    · exact ⟨x, List.mem_cons_self, here⟩
    · obtain ⟨x, mem, e⟩ := ih there mem
      exact ⟨x, List.mem_cons_of_mem _ mem, e⟩

/-- An item of a list that agrees with another one agrees with the item at the same place. -/
lemma exists_getElem?_of_forall₂ {R : β → γ → Prop} {bs : List β} {cs : List γ}
    (h : List.Forall₂ R bs cs) {i : Nat} {c : γ} (there : cs[i]? = some c) :
    ∃ b, bs[i]? = some b ∧ R b c := by
  induction h generalizing i with
  | nil => cases there
  | cons r _ ih =>
    cases i with
    | zero =>
      cases there
      exact ⟨_, rfl, r⟩
    | succ i => exact ih there

end Whereabouts
