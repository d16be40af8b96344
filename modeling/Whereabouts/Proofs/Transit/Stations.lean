import Mathlib.Data.List.Induction
import Mathlib.Data.List.Nodup
import Whereabouts.Proofs.Geometry.Doubles
import Whereabouts.Proofs.Lists
import Whereabouts.Transit.Dedup

/-!
# One stop of each station

Of the stops that were found the nearest of each station is kept, of several that are as near the one
with the lowest name. Stop after stop is compared with those kept so far; at the end no stop of a
station beats the one that was kept. Sorting the kept ones makes the answer the same in whichever
order the stops were found and were kept.

* `StopHit.keeps_foldl`: what is kept of the stops seen so far.
* `StopHit.Keeps.mem_iff`: the stops that are kept are the least ones of their stations.
* `StopHit.mergeSort_kept`: the order of the stops does not matter.
* `StopHit.dedup_least`: the main statement, over doubles.
-/

namespace Whereabouts.StopHit

open Std

variable {α : Type} [Scalar α] {a b c hit kept : StopHit α} {hits best : List (StopHit α)}

/-- What the stops of one station have in common. -/
def station (hit : StopHit α) : String := hit.stop.dedupKey

/-- One stop beats another one by its distance, and by its id at the same distance. -/
lemma beats_iff : a.beats b = true ↔
    a.distance < b.distance ∨ (a.distance == b.distance) = true ∧ a.stop.id < b.stop.id := by
  simp only [beats, Bool.or_eq_true, Bool.and_eq_true, decide_eq_true_eq]

/-- Whether the distance is a number: a NaN differs from itself. -/
def Comparable (hit : StopHit α) : Prop := (hit.distance == hit.distance) = true

section Beats

variable [RankedScalar α]

open RankedScalar

/-- No stop beats itself. -/
lemma not_beats_self (a : StopHit α) : ¬ a.beats a = true := by
  rw [beats_iff]
  rintro (lt | ⟨-, lt⟩)
  · exact lt_irrefl _ lt
  · exact String.lt_irrefl _ lt

/-- A stop that beats another one beats all that this one beats. -/
lemma beats_trans (ab : a.beats b = true) (bc : b.beats c = true) : a.beats c = true := by
  rw [beats_iff] at *
  rcases ab with ab | ⟨ab, id_lt⟩ <;> rcases bc with bc | ⟨bc, id_lt'⟩
  · exact .inl (lt_trans ab bc)
  · exact .inl (lt_of_lt_of_beq ab bc)
  · exact .inl (lt_of_beq_of_lt ab bc)
  · exact .inr ⟨BEq.trans ab bc, String.lt_trans id_lt id_lt'⟩

/-- Of two stops at distances that are numbers one beats the other. -/
lemma beats_of_not (ids : a.stop.id ≠ b.stop.id) (ha : a.Comparable) (hb : b.Comparable)
    (h : ¬ b.beats a = true) : a.beats b = true := by
  rw [beats_iff] at *
  rcases trichotomy ha hb with lt | e | gt
  · exact .inl lt
  · have le : a.stop.id ≤ b.stop.id := String.not_lt.1 fun lt => h (.inr ⟨BEq.symm e, lt⟩)
    exact .inr ⟨e, Std.lt_of_le_of_ne le ids⟩
  · exact absurd (.inl gt) h

end Beats

section Keeping

/-- The one of two stops of a station that is kept when the first is compared with the second. -/
def better (hit kept : StopHit α) : StopHit α :=
  if kept.station == hit.station && hit.beats kept then hit else kept

/-- A stop takes the place of one of its own station, or is added. -/
lemma keepNearest_eq (best : List (StopHit α)) (hit : StopHit α) : keepNearest best hit =
    if best.any fun kept => kept.station == hit.station then best.map (better hit)
    else best ++ [hit] := rfl

/-- The better of two stops is the first one where they share a station and it beats the second. -/
lemma better_cases (hit kept : StopHit α) :
    better hit kept = hit ∧ hit.station = kept.station ∧ hit.beats kept = true ∨
      better hit kept = kept ∧ (hit.station = kept.station → ¬ hit.beats kept = true) := by
  unfold better
  split
  next h =>
    obtain ⟨same, beaten⟩ := Bool.and_eq_true_iff.1 h
    exact .inl ⟨rfl, (beq_iff_eq.1 same).symm, beaten⟩
  next h =>
    refine .inr ⟨rfl, fun same beaten => h ?_⟩
    rw [same, beq_self_eq_true, Bool.true_and]
    exact beaten

/-- The better of two stops is of the same station. -/
lemma station_better (hit kept : StopHit α) : (better hit kept).station = kept.station := by
  rcases better_cases hit kept with ⟨e, same, -⟩ | ⟨e, -⟩
  · rw [e, same]
  · rw [e]

/-- What is kept of the stops seen so far: one stop of each station, which none of them beats. -/
structure Keeps (hits best : List (StopHit α)) : Prop where
  subset : best ⊆ hits
  stations : (best.map station).Nodup
  covers : ∀ hit ∈ hits, ∃ kept ∈ best, kept.station = hit.station
  unbeaten : ∀ kept ∈ best, ∀ hit ∈ hits, hit.station = kept.station → ¬ hit.beats kept = true

/-- Sorting changes the order of the stops that are kept, and nothing else. -/
lemma dedup_perm_kept (hits : List (StopHit α)) :
    (dedup hits).Perm (hits.foldl keepNearest []) := List.mergeSort_perm _ _

variable [RankedScalar α]

/-- A stop of a station that was seen before is compared with the one that is kept. -/
lemma Keeps.compare (keeps : Keeps hits best) (known : ∃ kept ∈ best, kept.station = hit.station) :
    Keeps (hits ++ [hit]) (best.map (better hit)) where
  subset := by
    intro kept hk
    obtain ⟨old, ho, rfl⟩ := List.mem_map.1 hk
    rcases better_cases hit old with ⟨e, -⟩ | ⟨e, -⟩ <;> rw [e]
    · exact List.mem_append_right _ List.mem_cons_self
    · exact List.mem_append_left _ (keeps.subset ho)
  stations := by
    rw [List.map_map]
    exact (List.map_congr_left fun old _ => station_better hit old) ▸ keeps.stations
  covers := by
    intro seen hs
    obtain ⟨old, ho, e⟩ : ∃ old ∈ best, old.station = seen.station := by
      rcases List.mem_append.1 hs with hs | hs
      · exact keeps.covers seen hs
      · rwa [List.mem_singleton.1 hs]
    exact ⟨better hit old, List.mem_map_of_mem ho, (station_better hit old).trans e⟩
  unbeaten := by
    intro kept hk seen hs same beaten
    obtain ⟨old, ho, rfl⟩ := List.mem_map.1 hk
    rw [station_better] at same
    rcases better_cases hit old with ⟨e, -, takes⟩ | ⟨e, stays⟩ <;> rw [e] at beaten <;>
      rcases List.mem_append.1 hs with hs | hs
    · -- what beats the new one beats the old one too
      exact keeps.unbeaten old ho seen hs same (beats_trans beaten takes)
    · rw [List.mem_singleton.1 hs] at beaten
      exact not_beats_self hit beaten
    · exact keeps.unbeaten old ho seen hs same beaten
    · rw [List.mem_singleton.1 hs] at beaten same
      exact stays same beaten

/-- The first stop of a station is kept. -/
lemma Keeps.append (keeps : Keeps hits best) (new : ∀ kept ∈ best, kept.station ≠ hit.station) :
    Keeps (hits ++ [hit]) (best ++ [hit]) where
  subset := List.append_subset.2 ⟨fun kept hk => List.mem_append_left _ (keeps.subset hk),
    fun kept hk => List.mem_append_right _ hk⟩
  stations := nodup_map_concat_iff.2 ⟨keeps.stations, new⟩
  covers := by
    intro seen hs
    rcases List.mem_append.1 hs with hs | hs
    · obtain ⟨kept, hk, e⟩ := keeps.covers seen hs
      exact ⟨kept, List.mem_append_left _ hk, e⟩
    · exact ⟨seen, List.mem_append_right _ hs, rfl⟩
  unbeaten := by
    intro kept hk seen hs same
    rcases List.mem_append.1 hk with hk | hk <;> rcases List.mem_append.1 hs with hs | hs
    · exact keeps.unbeaten kept hk seen hs same
    · rw [List.mem_singleton.1 hs] at same
      exact absurd same.symm (new kept hk)
    · obtain ⟨other, ho, e⟩ := keeps.covers seen hs
      rw [List.mem_singleton.1 hk] at same
      exact absurd (e.trans same) (new other ho)
    · rw [List.mem_singleton.1 hk, List.mem_singleton.1 hs]
      exact not_beats_self hit

/-- Adding a stop keeps the best of each station. -/
lemma Keeps.step (keeps : Keeps hits best) (hit : StopHit α) :
    Keeps (hits ++ [hit]) (keepNearest best hit) := by
  rw [keepNearest_eq]
  split
  next known =>
    obtain ⟨kept, hk, same⟩ := List.any_eq_true.1 known
    exact keeps.compare ⟨kept, hk, beq_iff_eq.1 same⟩
  next new =>
    exact keeps.append fun kept hk same => new (List.any_eq_true.2 ⟨kept, hk, beq_iff_eq.2 same⟩)

omit [RankedScalar α] in
/-- Stops of different stations are all kept. -/
lemma foldl_keepNearest_of_nodup (stations : (hits.map station).Nodup) :
    hits.foldl keepNearest [] = hits := by
  refine foldl_eq_self_of_nodup (fun best hit new => ?_) stations
  rw [keepNearest_eq, if_neg]
  intro known
  obtain ⟨kept, hk, same⟩ := List.any_eq_true.1 known
  exact new kept hk (beq_iff_eq.1 same)

/-- What is kept of all stops. -/
lemma keeps_foldl (hits : List (StopHit α)) : Keeps hits (hits.foldl keepNearest []) := by
  induction hits using List.reverseRecOn with
  | nil => exact ⟨List.Subset.refl _, List.nodup_nil, nofun, nofun⟩
  | append_singleton hits hit ih =>
    rw [List.foldl_concat]
    exact ih.step hit

/-- Of all hits the best of each station is kept. -/
lemma keeps_dedup (hits : List (StopHit α)) : Keeps hits (dedup hits) := by
  have keeps := keeps_foldl hits
  have mem {kept : StopHit α} : kept ∈ dedup hits ↔ kept ∈ hits.foldl keepNearest [] :=
    (dedup_perm_kept hits).mem_iff
  exact {
    subset := fun kept hk => keeps.subset (mem.1 hk)
    stations := ((dedup_perm_kept hits).map station).nodup_iff.2 keeps.stations
    covers := fun hit hh => by
      obtain ⟨kept, hk, same⟩ := keeps.covers hit hh
      exact ⟨kept, mem.2 hk, same⟩
    unbeaten := fun kept hk => keeps.unbeaten kept (mem.1 hk) }

end Keeping

section Least

/-- Two stops compared by distance and then by name. -/
def order (a b : StopHit α) : Ordering :=
  (Scalar.rank a.distance b.distance).then (compare a.stop.id b.stop.id)

variable [RankedScalar α]

open RankedScalar

instance : TransCmp fun a b : StopHit α => Scalar.rank a.distance b.distance where
  eq_swap := OrientedCmp.eq_swap
  isLE_trans := TransCmp.isLE_trans

instance : TransCmp (order (α := α)) :=
  inferInstanceAs (TransCmp (compareLex (fun a b : StopHit α => Scalar.rank a.distance b.distance)
    (compareOn fun hit => hit.stop.id)))

/-- The kept stops come in order. -/
lemma dedup_ordered (hits : List (StopHit α)) :
    (dedup hits).Pairwise fun a b => a.before b = true := pairwise_mergeSort_isLE order _

omit [RankedScalar α] in
/-- Of two stops with different ids one comes strictly first. -/
lemma order_eq_lt (ids : a.stop.id ≠ b.stop.id) (le : a.before b = true) : order a b = .lt := by
  have ne : order a b ≠ .eq := fun e =>
    ids (LawfulEqCmp.eq_of_compare (Ordering.then_eq_eq.1 e).2)
  exact (Ordering.isLE_iff_eq_lt_or_eq_eq.1 le).resolve_right ne

/-- Where equal numbers have one rank, what comes first beats what comes later. -/
lemma beats_of_order (ha : a.Comparable) (hb : b.Comparable)
    (agree : (a.distance == b.distance) = true → Scalar.rank a.distance b.distance = .eq)
    (lt : order a b = .lt) : a.beats b = true := by
  rw [beats_iff]
  rcases trichotomy ha hb with less | e | greater
  · exact .inl less
  · have first := Ordering.then_eq_lt.1 lt
    rw [agree e] at first
    exact .inr ⟨e, compareOfLessAndEq_eq_lt.1 (first.resolve_left nofun).2⟩
  · have gt : Scalar.rank a.distance b.distance = .gt :=
      OrientedCmp.gt_of_lt (rank_eq_lt greater)
    have first := Ordering.then_eq_lt.1 lt
    rw [gt] at first
    exact absurd first (by simp)

/-- Nothing is left to do where there is one stop of each station. -/
lemma dedup_dedup (hits : List (StopHit α)) : dedup (dedup hits) = dedup hits := by
  have kept : (dedup hits).foldl keepNearest [] = dedup hits :=
    foldl_keepNearest_of_nodup (keeps_dedup hits).stations
  show ((dedup hits).foldl keepNearest []).mergeSort before = dedup hits
  rw [kept]
  exact List.mergeSort_of_pairwise (dedup_ordered hits)

section Distinct

variable (ids : (hits.map fun hit => hit.stop.id).Nodup) (numbers : ∀ hit ∈ hits, hit.Comparable)

include ids

omit [Scalar α] [RankedScalar α] in
/-- Different hits have different ids. -/
lemma ids_ne (ha : a ∈ hits) (hb : b ∈ hits) (ne : a ≠ b) : a.stop.id ≠ b.stop.id :=
  fun same => ne (List.inj_on_of_nodup_map ids ha hb same)

omit [RankedScalar α] in
/-- Hits that are equal in the order are the same. -/
lemma eq_of_order (ha : a ∈ hits) (hb : b ∈ hits) (e : order a b = .eq) : a = b :=
  List.inj_on_of_nodup_map ids ha hb (LawfulEqCmp.eq_of_compare (Ordering.then_eq_eq.1 e).2)

/-- The kept stops come one after another. -/
lemma dedup_sorted : (dedup hits).Pairwise fun a b => order a b = .lt := by
  have keeps := keeps_dedup hits
  have apart : (dedup hits).Pairwise fun a b => a.station ≠ b.station :=
    List.pairwise_map.1 keeps.stations
  refine ((dedup_ordered hits).and apart).imp_of_mem fun {a b} ha hb h => ?_
  have ne : a ≠ b := fun e => h.2 (congrArg station e)
  exact order_eq_lt (ids_ne ids (keeps.subset ha) (keeps.subset hb) ne) h.1

include numbers

/-- The kept stops are those that beat all others of their stations. -/
lemma Keeps.mem_iff (keeps : Keeps hits best) : hit ∈ best ↔ hit ∈ hits ∧
    ∀ other ∈ hits, other ≠ hit → other.station = hit.station → hit.beats other = true := by
  constructor
  · intro hk
    refine ⟨keeps.subset hk, fun other ho ne same => ?_⟩
    exact beats_of_not (ids_ne ids (keeps.subset hk) ho ne.symm) (numbers _ (keeps.subset hk))
      (numbers _ ho) (keeps.unbeaten hit hk other ho same)
  · rintro ⟨hh, least⟩
    obtain ⟨kept, hk, same⟩ := keeps.covers hit hh
    by_cases e : kept = hit
    · exact e ▸ hk
    · exact absurd (least kept (keeps.subset hk) e same) (keeps.unbeaten kept hk hit hh same.symm)

/-- In whichever order the stops were found and were kept, sorting gives the same answer. -/
lemma mergeSort_kept {others kept : List (StopHit α)} (perm : others.Perm hits)
    (order : kept.Perm (others.foldl keepNearest [])) : kept.mergeSort before = dedup hits := by
  have keeps := keeps_foldl hits
  have keeps' := keeps_foldl others
  have ids' : (others.map fun hit => hit.stop.id).Nodup := (perm.map _).nodup_iff.2 ids
  have numbers' : ∀ hit ∈ others, hit.Comparable := fun hit hh => numbers hit (perm.mem_iff.1 hh)
  have same : (others.foldl keepNearest []).Perm (hits.foldl keepNearest []) := by
    rw [List.perm_ext_iff_of_nodup (List.Nodup.of_map _ keeps'.stations)
      (List.Nodup.of_map _ keeps.stations)]
    intro hit
    rw [keeps'.mem_iff ids' numbers', keeps.mem_iff ids numbers]
    simp only [perm.mem_iff]
  have all := order.trans same
  refine mergeSort_isLE_of_perm StopHit.order all fun a ha b hb => ?_
  exact eq_of_order ids (keeps.subset (all.mem_iff.1 ha)) (keeps.subset (all.mem_iff.1 hb))

end Distinct

end Least

section Main

variable {hits : List (StopHit Float)}

/-- Of stops with names of their own, at distances that are numbers, exactly those are kept that
beat all others of their stations, one for each station. They come in the order of their distances
and names: with the total order of distances always, and with that of the numbers where none is
below zero (negative zero counts as below). In whichever order the stops were found and were kept
the answer is the same, and it stays as it is when the stops that are kept are gone through again. -/
theorem dedup_least (ids : (hits.map fun hit => hit.stop.id).Nodup)
    (numbers : ∀ hit ∈ hits, hit.distance.isNaN = false) :
    (∀ hit, hit ∈ dedup hits ↔ hit ∈ hits ∧
      ∀ other ∈ hits, other ≠ hit → other.station = hit.station → hit.beats other = true) ∧
    (∀ hit ∈ hits, ∃! kept, kept ∈ dedup hits ∧ kept.station = hit.station) ∧
    (dedup hits).Pairwise (fun a b => order a b = .lt) ∧
    ((∀ hit ∈ hits, Scalar.rankLe 0.0 hit.distance = true) →
      (dedup hits).Pairwise fun a b => a.beats b = true) ∧
    (∀ others kept : List (StopHit Float), others.Perm hits →
      kept.Perm (others.foldl keepNearest []) → kept.mergeSort before = dedup hits) ∧
    dedup (dedup hits) = dedup hits := by
  have comparable : ∀ hit ∈ hits, hit.Comparable := fun hit hh =>
    Geometry.beq_self_iff.2 (numbers hit hh)
  have keeps := keeps_dedup hits
  refine ⟨fun hit => keeps.mem_iff ids comparable, ?one, dedup_sorted ids, ?numeric,
    fun others kept perm => mergeSort_kept ids comparable perm, dedup_dedup hits⟩
  case one =>
    intro hit hh
    obtain ⟨kept, hk, same⟩ := keeps.covers hit hh
    refine ⟨kept, ⟨hk, same⟩, fun other ⟨ho, same'⟩ => ?_⟩
    exact List.inj_on_of_nodup_map keeps.stations ho hk (same'.trans same.symm)
  case numeric =>
    intro nonneg
    refine (dedup_sorted ids).imp_of_mem fun {a b} ha hb lt => ?_
    have ha := keeps.subset ha
    have hb := keeps.subset hb
    exact beats_of_order (comparable a ha) (comparable b hb)
      (Geometry.rank_eq_of_beq (nonneg a ha) (nonneg b hb)) lt

end Main

section Sample

/-- A stop of buses that was found. -/
def busStop (id : String) (names : Names) (distance : Float) : StopHit Float :=
  ⟨.ofNames id names .bus ⟨0.0, 0.0⟩, distance⟩

def diagonal : Names := ⟨[(Names.defaultKey, "Diagonal")], List.pairwise_singleton _ _⟩

/-- Two stops of one name, as near as each other, and a nearer one without a name. -/
def diagonalStops : List (StopHit Float) :=
  [busStop "node/2" diagonal 20.0, busStop "node/1" diagonal 20.0, busStop "node/3" .empty 5.0]

/-- The one with the lower name is kept, after the nearer one. -/
theorem lower_diagonal_kept :
    (diagonalStops.map fun hit => hit.stop.id).Nodup ∧
      (∀ hit ∈ diagonalStops, hit.distance.isNaN = false) ∧
      dedup diagonalStops = [busStop "node/3" .empty 5.0, busStop "node/1" diagonal 20.0] := by
  have ids : (diagonalStops.map fun hit => hit.stop.id).Nodup := by decide
  have numbers : ∀ hit ∈ diagonalStops, hit.distance.isNaN = false := by
    simp only [diagonalStops, List.forall_mem_cons]
    exact ⟨rfl, rfl, rfl, nofun⟩
  have kept : [busStop "node/3" .empty 5.0, busStop "node/1" diagonal 20.0].Perm
      (diagonalStops.foldl keepNearest []) := .swap _ _ _
  obtain ⟨-, -, -, -, same, -⟩ := dedup_least ids numbers
  refine ⟨ids, numbers, (same diagonalStops _ (.refl _) kept).symm.trans ?_⟩
  exact List.mergeSort_of_pairwise (List.pairwise_pair.2 rfl)

end Sample

end Whereabouts.StopHit
