import Mathlib.Algebra.GroupWithZero.Nat
import Whereabouts.Config
import Whereabouts.Geometry.Binary64
import Whereabouts.Proofs.Enrich.Each

/-!
# The ranking of stops

Around every point the stops are ranked: tier by tier, in each tier one stop of each station, the
nearest first. What is reported for the point is the beginning of this ranking, whatever gateway
answers, as long as it answers with as many slots as it is asked for. The answers for all points and
tiers come in one list, and so do the lines of all stops that were selected; none of them goes to
another point, tier or stop.

* `deal_eq_range`: dealing in equal groups gives the group at each place.
* `flatten_deal`: dealing to groups of any sizes and putting the groups together again is pairing.
* `Gateway.run_nearestAll`: what a search comes to when its two calls are answered.
* `Gateway.Ranked`: what is reported for several points.
* `Gateway.nearestAll_ranked`: the main statement.
-/

namespace Whereabouts

section Lists

variable {β γ δ ε : Type}

/-- A group of items that lie behind others has them at the places behind these. -/
lemma take_drop_eq_range (items : List γ) (k size : Nat) (le : k + size ≤ items.length) (d : γ) :
    (items.drop k).take size = (List.range size).map fun j => (items[k + j]?).getD d := by
  apply List.ext_getElem
  · simp only [List.length_take, List.length_drop, List.length_map, List.length_range]
    omega
  · intro j lt _
    simp only [List.length_take, List.length_drop] at lt
    have bound : k + j < items.length := by omega
    have here : items[k + j]? = some items[k + j] := List.getElem?_eq_getElem bound
    simp [here]

/-- Dealing in groups of one size gives the group at each place. -/
lemma deal_eq_range (size : Nat) (bs : List β) (items : List γ) :
    deal (fun _ => size) bs items =
      (List.range bs.length).map fun i => (items.drop (i * size)).take size := by
  induction bs generalizing items with
  | nil => rfl
  | cons b bs ih =>
    rw [deal, ih, List.length_cons, List.range_succ_eq_map, List.map_cons, List.map_map]
    congr 1
    · simp
    · apply List.map_congr_left
      intro i _
      simp [List.drop_drop, Nat.succ_mul, Nat.add_comm]

/-- Items that are dealt to groups and put together again are paired with what they were dealt
to. -/
lemma flatten_deal (f : β → γ → δ) (groups : List (List β)) {items : List γ}
    (len : items.length = groups.flatten.length) :
    (groups.zipWith (fun group dealt => group.zipWith f dealt)
      (deal List.length groups items)).flatten = groups.flatten.zipWith f items := by
  induction groups generalizing items with
  | nil => rfl
  | cons group groups ih =>
    rw [List.flatten_cons, List.length_append] at len
    have head : group.length = (items.take group.length).length := by
      rw [List.length_take]
      omega
    have tail : (items.drop group.length).length = groups.flatten.length := by
      rw [List.length_drop]
      omega
    rw [deal, List.zipWith_cons_cons, List.flatten_cons, List.flatten_cons, ih tail]
    conv_rhs => rw [← List.take_append_drop group.length items, List.zipWith_append head]

/-- Pairing with a list that is long enough loses no item. -/
lemma zipWith_left (h : β → ε) {xs : List β} {ys : List γ} (le : xs.length ≤ ys.length) :
    xs.zipWith (fun x _ => h x) ys = xs.map h := by
  calc xs.zipWith (fun x _ => h x) ys = (xs.zip ys).map (fun p => h p.1) := by
        rw [List.zip, List.map_zipWith]
    _ = ((xs.zip ys).map Prod.fst).map h := by rw [List.map_map]; rfl
    _ = xs.map h := by rw [List.map_fst_zip le]

/-- Every group keeps what does not depend on the items that are dealt to it. -/
lemma map_deal (f : β → γ → δ) {g : δ → ε} {h : β → ε} (same : ∀ x y, g (f x y) = h x)
    (groups : List (List β)) {items : List γ} (len : items.length = groups.flatten.length) :
    (groups.zipWith (fun group dealt => group.zipWith f dealt)
      (deal List.length groups items)).map (·.map g) = groups.map (·.map h) := by
  induction groups generalizing items with
  | nil => rfl
  | cons group groups ih =>
    rw [List.flatten_cons, List.length_append] at len
    have head : group.length ≤ (items.take group.length).length := by
      rw [List.length_take]
      omega
    have tail : (items.drop group.length).length = groups.flatten.length := by
      rw [List.length_drop]
      omega
    rw [deal, List.zipWith_cons_cons, List.map_cons, List.map_cons, ih tail, List.map_zipWith]
    simp only [same, zipWith_left h head]

/-- What comes first in a list comes whole before the first of what comes later is taken. -/
lemma subset_take_append {first second : List β} {x : β} {n : Nat}
    (mem : x ∈ (first ++ second).take n) (later : x ∉ first) : first ⊆ (first ++ second).take n := by
  intro y hy
  have le : first.length ≤ n := by
    by_contra lt
    rw [List.take_append_of_le_length (by omega)] at mem
    exact later (List.mem_of_mem_take mem)
  rw [List.take_append, List.take_of_length_le le]
  exact List.mem_append_left _ hy

end Lists

namespace Tier

/-- The modes of the tier with a number. -/
def modesOf (number : Nat) : List Mode := Mode.all.filter fun mode => mode.tier.number == number

/-- A tier has the modes of its number. -/
lemma modesOf_number (tier : Tier) : modesOf tier.number = tier.modes := by
  cases tier <;> rfl

end Tier

namespace MatcherConfig

variable {α : Type} (config : MatcherConfig α)

/-- The tiers that take part stand at the places that their numbers give. -/
lemma tiers_numbers : config.tiers.map (fun tier => tier.number - 1) =
    List.range config.tiers.length := by
  unfold tiers
  split <;> rfl

/-- The tiers that take part ascend by number. -/
lemma tiers_ascending : config.tiers.Pairwise fun a b => a.number < b.number := by
  unfold tiers
  split <;> decide

/-- A smaller limit stays smaller; only zero stands for the greatest one. -/
lemma effectiveLimit_mono {limit larger : Nat} (pos : limit ≠ 0) (le : limit ≤ larger) :
    config.effectiveLimit limit ≤ config.effectiveLimit larger := by
  rw [effectiveLimit_of_pos config pos, effectiveLimit_of_pos config (by omega)]
  omega

end MatcherConfig

/-- What is reported of a stop, but for the lines. -/
def NearestStop.bare {α : Type} (report : NearestStop α) : NearestStop α := { report with lines := [] }

namespace Gateway

section Requests

variable {α : Type} (config : MatcherConfig α)

/-- The place of the request for a point and a tier among all requests. -/
def place (i : Nat) (tier : Tier) : Nat :=
  i * config.tiers.length + (tier.number - 1)

/-- The stops that were found for a point and a tier. -/
def foundAt (hits : List (List (StopHit α))) (i : Nat) (tier : Tier) :
    List (StopHit α) :=
  (hits[place config i tier]?).getD []

/-- There is one request for each point and tier. -/
lemma length_tierRequests (radius : α) (points : List (Point α)) :
    (tierRequests config.tiers radius points).length = points.length * config.tiers.length := by
  simp [tierRequests]

/-- The requests for a point are dealt to this point. -/
lemma deal_tierRequests (radius : α) (points : List (Point α)) :
    deal (fun _ => config.tiers.length) points (tierRequests config.tiers radius points) =
      points.map fun p => config.tiers.map fun tier => ⟨p, radius, none, tier.modes⟩ :=
  deal_flatMap _ _ points fun _ => List.length_map _

/-- A tier that takes part stands at the place that its number gives. -/
lemma getElem?_tiers {tier : Tier} (mem : tier ∈ config.tiers) :
    config.tiers[tier.number - 1]? = some tier := by
  obtain ⟨j, lt, rfl⟩ := List.getElem_of_mem mem
  have number : config.tiers[j].number - 1 = j := by
    have at_place := congrArg (·[j]?) config.tiers_numbers
    simpa [lt] using at_place
  rw [number]
  exact List.getElem?_eq_getElem lt

/-- Among the requests stands, at the place of a point and a tier, the request for these. -/
lemma getElem?_tierRequests (radius : α) {points : List (Point α)} {i : Nat} {p : Point α}
    (hp : points[i]? = some p) {tier : Tier} (mem : tier ∈ config.tiers) :
    (tierRequests config.tiers radius points)[place config i tier]? =
      some ⟨p, radius, none, tier.modes⟩ := by
  have at_tier := getElem?_tiers config mem
  obtain ⟨within, -⟩ := List.getElem?_eq_some_iff.1 hp
  obtain ⟨lt, -⟩ := List.getElem?_eq_some_iff.1 at_tier
  -- the group of the point, as it is dealt and as it was asked for
  have group := congrArg (·[i]?)
    ((deal_eq_range _ _ _).symm.trans (deal_tierRequests config radius points))
  simp only [List.getElem?_map, List.getElem?_range within, hp, Option.map_some,
    Option.some.injEq] at group
  have there := congrArg (·[tier.number - 1]?) group
  rw [List.getElem?_take_of_lt lt, List.getElem?_drop, List.getElem?_map, at_tier] at there
  exact there

/-- The answers for a point are dealt to this point, tier by tier. -/
lemma deal_hits (points : List (Point α)) {hits : List (List (StopHit α))}
    (aligned : hits.length = points.length * config.tiers.length) :
    deal (fun _ => config.tiers.length) points hits =
      (List.range points.length).map fun i => config.tiers.map (foundAt config hits i) := by
  rw [deal_eq_range]
  apply List.map_congr_left
  intro i hi
  have within : (i + 1) * config.tiers.length ≤ points.length * config.tiers.length :=
    Nat.mul_le_mul_right _ (List.mem_range.1 hi)
  rw [Nat.succ_mul] at within
  rw [take_drop_eq_range hits _ _ (by omega) [], ← config.tiers_numbers, List.map_map]
  rfl

end Requests

variable {α : Type} [Scalar α]

/-- All stops that could be reported for a point: of every tier one stop of each station, the
nearest first. -/
def ranking (tiers : List Tier) (found : Tier → List (StopHit α)) : List (StopHit α × Tier) :=
  tiers.flatMap fun tier => (StopHit.dedup (found tier)).map fun hit => (hit, tier)

/-- What is selected for a point is the beginning of its ranking. -/
lemma select_eq (tiers : List Tier) (limit : Nat) (found : Tier → List (StopHit α)) :
    select tiers limit (tiers.map found) = (ranking tiers found).take limit := by
  have pairs : tiers.zip ((tiers.map found).map StopHit.dedup) =
      tiers.map fun tier => (tier, StopHit.dedup (found tier)) := by
    rw [List.map_map, List.zip_eq_zipWith, List.zipWith_map_right, List.zipWith_self]
    rfl
  unfold select fillByTier
  rw [pairs, List.flatMap_map]
  rfl

/-- What is reported of a stop of a tier, but for its lines. -/
def bareReport (selected : StopHit α × Tier) : NearestStop α :=
  ⟨selected.1.stop, selected.1.distance, selected.2.number, [], none, none⟩

/-- The plan for the lines of a stop that is reported. -/
def planFor (config : MatcherConfig α) (report : NearestStop α) : Plan α :=
  Plan.linesNear report.stop.location config.lineProximity (Tier.modesOf report.priority)

/-- What is reported for several points, when the stops were answered with `hits` and the plans for
lines are answered with `lines`. -/
structure Ranked (config : MatcherConfig α) (points : List (Point α))
    (hits : List (List (StopHit α))) (lines : List (Plan α) → List (List Line)) (limit : Nat)
    (slots : List (List (NearestStop α))) : Prop where
  length_eq : slots.length = points.length
  /-- A slot is the beginning of the ranking around its point. -/
  slot_eq : ∀ i slot, slots[i]? = some slot → slot.map NearestStop.bare =
    ((ranking config.tiers (foundAt config hits i)).take (config.effectiveLimit limit)).map bareReport
  /-- The lines of a stop are the answer to the plan for this stop. -/
  lines_eq : slots.flatten.map (·.lines) =
    (lines (slots.flatten.map (planFor config))).map Line.dedup
  slot_length : ∀ i slot, slots[i]? = some slot → slot.length = min (config.effectiveLimit limit)
    ((config.tiers.map fun tier => (StopHit.dedup (foundAt config hits i tier)).length).sum)
  /-- A stop is reported only together with all stops of the tiers before its own. -/
  lower_first : ∀ i slot, slots[i]? = some slot → ∀ report ∈ slot, ∀ tier ∈ config.tiers,
    tier.number < report.priority → ∀ hit ∈ StopHit.dedup (foundAt config hits i tier),
      bareReport (hit, tier) ∈ slot.map NearestStop.bare

section Reports

variable (config : MatcherConfig α) (points : List (Point α)) (hits : List (List (StopHit α)))
  (lines : List (Plan α) → List (List Line)) (limit : Nat)

/-- The stops that are selected for all points. -/
def selection : List (List (StopHit α × Tier)) :=
  (List.range points.length).map fun i =>
    (ranking config.tiers (foundAt config hits i)).take (config.effectiveLimit limit)

/-- The reports on the stops that are selected. -/
def reports : List (List (NearestStop α)) :=
  (selection config points hits limit).zipWith (fun stops lines => stops.zipWith report lines)
    (deal List.length (selection config points hits limit)
      (lines ((selection config points hits limit).flatten.map (linePlan config))))

/-- What is selected for a point stands at the place of the point. -/
lemma getElem?_selection {i : Nat} (lt : i < points.length) :
    (selection config points hits limit)[i]? = some
      ((ranking config.tiers (foundAt config hits i)).take (config.effectiveLimit limit)) := by
  simp [selection, lt]

variable {lines}
variable (aligned : ∀ plans, (lines plans).length = plans.length)

include aligned

/-- There are lines for each stop that is selected. -/
lemma length_lines : (lines ((selection config points hits limit).flatten.map
    (linePlan config))).length = (selection config points hits limit).flatten.length := by
  rw [aligned, List.length_map]

/-- But for their lines, the reports are those on the stops that were selected. -/
lemma map_bare_reports : (reports config points hits lines limit).map (·.map NearestStop.bare) =
    (selection config points hits limit).map (·.map bareReport) :=
  map_deal report (fun _ _ => rfl) _ (length_lines config points hits limit aligned)

/-- The reports of all points together pair the selected stops with what is answered for them. -/
lemma flatten_reports : (reports config points hits lines limit).flatten =
    (selection config points hits limit).flatten.zipWith report
      (lines ((selection config points hits limit).flatten.map (linePlan config))) :=
  flatten_deal report _ (length_lines config points hits limit aligned)

/-- There is one list of reports for each point. -/
lemma length_reports : (reports config points hits lines limit).length = points.length := by
  have len := congrArg List.length (map_bare_reports config points hits limit aligned)
  simpa [selection] using len

/-- A slot of the reports, but for the lines. -/
lemma bare_of_slot {i : Nat} {slot : List (NearestStop α)}
    (hs : (reports config points hits lines limit)[i]? = some slot) :
    slot.map NearestStop.bare = ((ranking config.tiers (foundAt config hits i)).take
      (config.effectiveLimit limit)).map bareReport := by
  have lt := (List.getElem?_eq_some_iff.1 hs).1
  rw [length_reports config points hits limit aligned] at lt
  have at_place := congrArg (·[i]?) (map_bare_reports config points hits limit aligned)
  simpa [hs, getElem?_selection config points hits limit lt] using at_place

/-- The plans for the stops that are reported are those that were asked. -/
lemma map_planFor_reports : (reports config points hits lines limit).flatten.map (planFor config) =
    (selection config points hits limit).flatten.map (linePlan config) := by
  have same : ∀ s ls, planFor config (report s ls) = linePlan config s := by
    intro s ls
    unfold planFor linePlan report
    rw [Tier.modesOf_number]
  rw [flatten_reports config points hits limit aligned, List.map_zipWith]
  simp only [same]
  exact zipWith_left _ (Nat.le_of_eq (length_lines config points hits limit aligned).symm)

/-- The lines that are reported are one of each route that is answered for the plan of the stop. -/
lemma lines_of_reports : (reports config points hits lines limit).flatten.map (·.lines) =
    (lines ((reports config points hits lines limit).flatten.map (planFor config))).map
      Line.dedup := by
  have right : ∀ (ss : List (StopHit α × Tier)) (ls : List (List Line)), ls.length = ss.length →
      (ss.zipWith report ls).map (·.lines) = ls.map Line.dedup := by
    intro ss ls len
    rw [List.map_zipWith, List.zipWith_comm]
    exact zipWith_left _ (Nat.le_of_eq len)
  rw [map_planFor_reports config points hits limit aligned,
    flatten_reports config points hits limit aligned]
  exact right _ _ (length_lines config points hits limit aligned)

omit aligned in
/-- A stop has a rank where its tier takes part and it is kept for its station. -/
lemma mem_ranking {tiers : List Tier} {found : Tier → List (StopHit α)} {s : StopHit α × Tier} :
    s ∈ ranking tiers found ↔ s.2 ∈ tiers ∧ s.1 ∈ StopHit.dedup (found s.2) := by
  obtain ⟨hit, tier⟩ := s
  simp only [ranking, List.mem_flatMap, List.mem_map, Prod.mk.injEq]
  constructor
  · rintro ⟨t, mem, h, there, rfl, rfl⟩
    exact ⟨mem, there⟩
  · rintro ⟨mem, there⟩
    exact ⟨tier, mem, hit, there, rfl, rfl⟩

omit aligned in
/-- Where a stop is among the first of a ranking, so are all stops of the tiers before its own. -/
lemma lower_mem_take {tiers : List Tier} (asc : tiers.Pairwise fun a b => a.number < b.number)
    {found : Tier → List (StopHit α)} {n : Nat} {s : StopHit α × Tier}
    (mem : s ∈ (ranking tiers found).take n) {tier : Tier} (ht : tier ∈ tiers)
    (lower : tier.number < s.2.number) {hit : StopHit α} (hh : hit ∈ StopHit.dedup (found tier)) :
    (hit, tier) ∈ (ranking tiers found).take n := by
  obtain ⟨here, -⟩ := mem_ranking.1 (List.mem_of_mem_take mem)
  obtain ⟨before, after, rfl⟩ := List.append_of_mem here
  obtain ⟨-, later, across⟩ := List.pairwise_append.1 asc
  have first : tier ∈ before := by
    obtain first | rest := List.mem_append.1 ht
    · exact first
    · obtain rfl | rest := List.mem_cons.1 rest
      · exact absurd lower (Nat.lt_irrefl _)
      · have greater := List.rel_of_pairwise_cons later rest
        omega
  have split : ranking (before ++ s.2 :: after) found =
      ranking before found ++ ranking (s.2 :: after) found := List.flatMap_append
  rw [split] at mem ⊢
  apply subset_take_append mem
  · intro again
    have twice := across s.2 (mem_ranking.1 again).1 s.2 List.mem_cons_self
    exact Nat.lt_irrefl _ twice
  · exact mem_ranking.2 ⟨first, hh⟩

/-- The reports are the beginnings of the rankings, with the lines of their own stops. -/
lemma ranked_reports : Ranked config points hits lines limit
    (reports config points hits lines limit) where
  length_eq := length_reports config points hits limit aligned
  slot_eq _ _ hs := bare_of_slot config points hits limit aligned hs
  lines_eq := lines_of_reports config points hits limit aligned
  slot_length := by
    intro i slot hs
    have len := congrArg List.length (bare_of_slot config points hits limit aligned hs)
    simpa [ranking, List.length_flatMap] using len
  lower_first := by
    intro i slot hs report mem tier ht lower hit hh
    have bare := bare_of_slot config points hits limit aligned hs
    have there : report.bare ∈ slot.map NearestStop.bare := List.mem_map_of_mem mem
    rw [bare] at there ⊢
    obtain ⟨s, hs, e⟩ := List.mem_map.1 there
    have number : s.2.number = report.priority := congrArg NearestStop.priority e
    apply List.mem_map_of_mem
    exact lower_mem_take config.tiers_ascending hs ht (number ▸ lower) hh

end Reports

section Limits

variable (config : MatcherConfig α) (points : List (Point α)) (hits : List (List (StopHit α)))
  {limit larger : Nat}

/-- What is selected with a smaller limit comes first in what is selected with a larger one. -/
lemma selection_of_le (pos : limit ≠ 0) (le : limit ≤ larger) :
    List.Forall₂ (· <+: ·) (selection config points hits limit)
      (selection config points hits larger) := by
  unfold selection
  rw [List.forall₂_map_left_iff, List.forall₂_map_right_iff, List.forall₂_same]
  intro i _
  exact List.take_prefix_take_left (config.effectiveLimit_mono pos le)

/-- A smaller limit reports the beginning of what a larger one does, but for the lines. -/
lemma bare_of_le {lines : List (Plan α) → List (List Line)}
    (aligned : ∀ plans, (lines plans).length = plans.length) (pos : limit ≠ 0)
    (le : limit ≤ larger) :
    List.Forall₂ (fun few many => few.map NearestStop.bare <+: many.map NearestStop.bare)
      (reports config points hits lines limit) (reports config points hits lines larger) := by
  have bare : List.Forall₂ (· <+: ·)
      ((reports config points hits lines limit).map (·.map NearestStop.bare))
      ((reports config points hits lines larger).map (·.map NearestStop.bare)) := by
    rw [map_bare_reports config points hits limit aligned,
      map_bare_reports config points hits larger aligned, List.forall₂_map_left_iff,
      List.forall₂_map_right_iff]
    exact (selection_of_le config points hits pos le).imp fun _ _ h => h.map bareReport
  rw [List.forall₂_map_left_iff, List.forall₂_map_right_iff] at bare
  exact bare

/-- Where every plan for lines is answered for itself, so is every stop reported. -/
lemma reports_of_each (f : Plan α → List Line) (limit : Nat) :
    reports config points hits (·.map f) limit = (selection config points hits limit).map
      (·.map fun s => report s (f (linePlan config s))) := by
  unfold reports
  rw [deal_map_flatten, List.zipWith_map_right, List.zipWith_self]
  simp only [List.zipWith_map_right, List.zipWith_self]

/-- Where every plan for lines is answered for itself, the lines are the same with a smaller limit.
-/
lemma reports_of_le (f : Plan α → List Line) (pos : limit ≠ 0) (le : limit ≤ larger) :
    List.Forall₂ (· <+: ·) (reports config points hits (·.map f) limit)
      (reports config points hits (·.map f) larger) := by
  rw [reports_of_each, reports_of_each, List.forall₂_map_left_iff, List.forall₂_map_right_iff]
  exact (selection_of_le config points hits pos le).imp fun _ _ h => h.map _

end Limits

section Run

variable {σ : Type}

omit [Scalar α] in
/-- A computation goes on with what its first part gives. -/
lemma run_bind_ok {ε β γ : Type} {x : ExceptT ε (StateM σ) β} {f : β → ExceptT ε (StateM σ) γ}
    {s s1 : σ} {b : β} (h : x.run.run s = (.ok b, s1)) :
    (x >>= f).run.run s = (f b).run.run s1 := by
  rw [ExceptT.run_bind, StateT.run_bind, h]
  rfl

omit [Scalar α] in
/-- The expected number of slots lets a computation go on. -/
lemma run_ensureAligned (layer : Layer) {got expected : Nat} (e : got = expected) (s : σ) :
    (ensureAligned (m := StateM σ) layer got expected).run.run s = (.ok (), s) := by
  unfold ensureAligned
  rw [if_pos e]
  rfl

omit [Scalar α] in
/-- What a computation gives is mapped, and it gives it as before. -/
lemma fst_run_map {β γ : Type} {x : ExceptT StoreError (StateM σ) β} {f : β → γ} {s : σ} {b : β}
    (run : (x.run.run s).1 = .ok b) : ((f <$> x).run.run s).1 = .ok (f b) := by
  have mapped : ((f <$> x).run.run s).1 = (x.run.run s).1.map f := by
    rw [ExceptT.run_map, StateT.run_map]
    rfl
  rw [mapped, run]
  rfl

section Room

variable {tiers : List Tier} {limit : Nat} {found : List (List (List (StopHit α)))}

/-- Where there is room for its stops, the selection is made for every point. -/
lemma mapM_select?_of_le (within : limit ≤ maxSlots) :
    found.mapM (select? tiers limit) = some (found.map (select tiers limit)) :=
  mapM_eq_pure fun _ _ => if_pos within

/-- Where there can be no room for its stops, no selection is made for the first point. -/
lemma mapM_select?_of_lt (beyond : maxSlots < limit) (ne : found ≠ []) :
    found.mapM (select? tiers limit) = none := by
  cases found with
  | nil => exact absurd rfl ne
  | cons first rest =>
    have refused : select? tiers limit first = none := if_neg (Nat.not_le.2 beyond)
    rw [List.mapM_cons, refused]
    rfl

/-- With room for its stops, a search on a machine is the search. -/
lemma nearestAll?_of_le {m : Type → Type} [Monad m] [LawfulMonad m] {g : Gateway m α}
    {config : MatcherConfig α} {points : List (Point α)} {radius : α}
    (within : points = [] ∨ config.effectiveLimit limit ≤ maxSlots) :
    g.nearestAll? config points radius limit = some <$> g.nearestAll config points radius limit := by
  unfold nearestAll? nearestAll
  split
  next => rw [map_pure]
  next ne =>
    have le := within.resolve_left fun none => ne (List.isEmpty_iff.2 none)
    simp only [mapM_select?_of_le le, map_bind]
    rfl

end Room

section Search

variable {g : Gateway (StateM σ) α} {config : MatcherConfig α} {points : List (Point α)}
  {radius : α} {s s1 : σ} {hits : List (List (StopHit α))}
  (stops : (g.nearestStopsAll
    (tierRequests config.tiers (config.effectiveRadius radius) points)).run.run s = (.ok hits, s1))
  (aligned : hits.length = points.length * config.tiers.length)

include stops aligned

/-- What was found around a point is what was answered for it. -/
lemma run_findAll : (g.findAll config points radius).run.run s =
    (.ok ((List.range points.length).map fun i => config.tiers.map (foundAt config hits i)), s1) := by
  unfold findAll
  dsimp only
  rw [run_bind_ok stops, run_bind_ok (run_ensureAligned _ (by
    rw [aligned, length_tierRequests]) s1), deal_hits config points aligned]
  rfl

variable {lines : List (Plan α) → List (List Line)} {later : List (Plan α) → σ}
  (answers : ∀ plans, (g.lines plans).run.run s1 = (.ok (lines plans), later plans))
  (alignedLines : ∀ plans, (lines plans).length = plans.length) (limit : Nat)

omit [Scalar α] stops aligned in
include answers alignedLines in
/-- Lines that are not asked for, since nothing was selected, are answered too. -/
lemma run_askLines (plans : List (Plan α)) :
    ∃ s', (g.askLines plans).run.run s1 = (.ok (lines plans), s') := by
  cases plans with
  | nil =>
    have nothing : lines [] = [] := List.eq_nil_of_length_eq_zero (alignedLines [])
    rw [nothing]
    exact ⟨s1, rfl⟩
  | cons plan plans => exact ⟨_, answers _⟩

include answers alignedLines in
/-- A search whose two calls are answered with the right numbers of slots gives the reports. -/
lemma run_nearestAll : ((g.nearestAll config points radius limit).run.run s).1 =
    .ok (reports config points hits lines limit) := by
  unfold nearestAll
  split
  next none =>
    rw [List.isEmpty_iff.1 none]
    rfl
  next =>
    have selected : ((List.range points.length).map fun i =>
        config.tiers.map (foundAt config hits i)).map
        (select config.tiers (config.effectiveLimit limit)) =
        selection config points hits limit := by
      rw [List.map_map]
      apply List.map_congr_left
      intro i _
      exact select_eq config.tiers _ _
    rw [run_bind_ok (run_findAll stops aligned), selected]
    unfold reportAll
    dsimp only
    obtain ⟨s', run⟩ := run_askLines answers alignedLines
      ((selection config points hits limit).flatten.map (linePlan config))
    rw [run_bind_ok run, run_bind_ok (run_ensureAligned _ (alignedLines _) _)]
    rfl

/-- Without room for its stops, a search on a machine ends when the stops are answered. -/
lemma run_nearestAll?_of_lt (ne : points ≠ []) {limit : Nat}
    (beyond : maxSlots < config.effectiveLimit limit) :
    (g.nearestAll? config points radius limit).run.run s = (.ok none, s1) := by
  have found : (List.range points.length).map (fun i => config.tiers.map (foundAt config hits i)) ≠
      [] := by simpa using ne
  unfold nearestAll?
  rw [if_neg (by simpa using ne), run_bind_ok (run_findAll stops aligned),
    mapM_select?_of_lt beyond found]
  rfl

end Search

end Run

/-- **Stops are reported by rank, and nothing is mixed up.** Take any gateway that answers the
requests for the stops of every point and tier with `hits`, one slot each, and any plans for lines
with one slot each. Then a search on a machine succeeds with every limit for whose stops there can
be room, and with every limit where there are no points; it has no result with a greater one. The
slot of a point is the beginning of its ranking, with the lines that were answered for each stop
itself; a smaller limit that is not zero reports the beginning of what a larger one does. -/
theorem nearestAll_ranked {σ : Type} {g : Gateway (StateM σ) α} {config : MatcherConfig α}
    {points : List (Point α)} {radius : α} {s s1 : σ} {hits : List (List (StopHit α))}
    (stops : (g.nearestStopsAll
      (tierRequests config.tiers (config.effectiveRadius radius) points)).run.run s = (.ok hits, s1))
    (aligned : hits.length = points.length * config.tiers.length)
    {lines : List (Plan α) → List (List Line)} {later : List (Plan α) → σ}
    (answers : ∀ plans, (g.lines plans).run.run s1 = (.ok (lines plans), later plans))
    (alignedLines : ∀ plans, (lines plans).length = plans.length) :
    (config.tiers.map Tier.number = if config.includeFallback then [1, 2, 3] else [1, 2]) ∧
    (∀ i p, points[i]? = some p → ∀ tier ∈ config.tiers,
      (tierRequests config.tiers (config.effectiveRadius radius) points)[place config i tier]? =
        some ⟨p, config.effectiveRadius radius, none, tier.modes⟩) ∧
    ∃ slots : Nat → List (List (NearestStop α)), ∀ limit,
      ((g.nearestAll? config points radius limit).run.run s).1 =
        .ok (if points = [] ∨ config.effectiveLimit limit ≤ maxSlots then some (slots limit)
          else none) ∧
      Ranked config points hits lines limit (slots limit) ∧
      ∀ larger, limit ≠ 0 → limit ≤ larger →
        List.Forall₂ (fun few many => few.map NearestStop.bare <+: many.map NearestStop.bare)
          (slots limit) (slots larger) ∧
        ((∃ f, ∀ plans, lines plans = plans.map f) →
          List.Forall₂ (· <+: ·) (slots limit) (slots larger)) := by
  refine ⟨?_, ?_, reports config points hits lines, ?_⟩
  · unfold MatcherConfig.tiers
    split <;> rfl
  · intro i p hp tier mem
    exact getElem?_tierRequests config _ hp mem
  · intro limit
    refine ⟨?_, ranked_reports config points hits limit alignedLines, ?_⟩
    · split
      next within =>
        rw [nearestAll?_of_le within]
        exact fst_run_map (run_nearestAll stops aligned answers alignedLines limit)
      next beyond =>
        obtain ⟨ne, lt⟩ := not_or.1 beyond
        rw [run_nearestAll?_of_lt stops aligned ne (Nat.not_le.1 lt)]
    intro larger pos le
    refine ⟨bare_of_le config points hits alignedLines pos le, ?_⟩
    rintro ⟨f, each⟩
    have e : lines = fun plans => plans.map f := funext each
    rw [e]
    exact reports_of_le config points hits f pos le

section Sample

/-- A stop that has a number for its name. -/
def numberedStop (n : Nat) : StopHit Float :=
  ⟨⟨toString n, .empty, .metro, ⟨41.0, 2.0⟩, ""⟩, n.toFloat⟩

/-- Answers every request with one stop, the first request with the first stop, and so on. -/
def numberedStops : Gateway (StateM Nat) Float where
  boundaries _ := pure []
  stops plans := modify (· + 1) *> pure (plans.zipIdx.map fun plan => [numberedStop plan.2])
  lines plans := modify (· + 1) *> pure (plans.map fun _ => [])

/-- Two points and two tiers make four stops, two for each point. -/
theorem two_points_ranked :
    let config : MatcherConfig Float := .standard
    let points : List (Point Float) := [⟨41.0, 2.0⟩, ⟨41.5, 2.5⟩]
    let hits := [[numberedStop 0], [numberedStop 1], [numberedStop 2], [numberedStop 3]]
    (numberedStops.nearestStopsAll (tierRequests config.tiers (config.effectiveRadius 500.0)
      points)).run.run 0 = (.ok hits, 1) ∧
    hits.length = points.length * config.tiers.length ∧
    ∃ slots : Nat → List (List (NearestStop Float)), ∀ limit,
      ((numberedStops.nearestAll? config points 500.0 limit).run.run 0).1 =
        .ok (some (slots limit)) ∧
      Ranked config points hits (·.map fun _ => []) limit (slots limit) := by
  intro config points hits
  obtain ⟨-, -, slots, all⟩ := @nearestAll_ranked Float _ Nat numberedStops config points 500.0
    0 1 hits rfl rfl (·.map fun _ => []) (fun _ => 2) (fun _ => rfl) fun _ => List.length_map _
  refine ⟨rfl, rfl, slots, fun limit => ?_⟩
  obtain ⟨run, ranked, -⟩ := all limit
  have within : config.effectiveLimit limit ≤ maxSlots :=
    Nat.le_trans (config.effectiveLimit_le limit) (by decide)
  rw [if_pos (.inr within)] at run
  exact ⟨run, ranked⟩

/-- Settings whose greatest limit is the greatest number that can be written. -/
def greatestLimit : String :=
  "[data]\nboundaries = \"b\"\nstops = \"s\"\nlines = \"l\"\n\n" ++
  "[matcher]\nmax_limit = 9223372036854775807\n"

/-- The settings are admitted, and a search without a limit has no result under them, although the
stops were answered with the right number of slots. -/
theorem greatest_limit_without_result :
    ∃ config, Config.ofText greatestLimit = .ok config ∧
      let points : List (Point Float) := [⟨41.0, 2.0⟩]
      (∃ hits, (numberedStops.nearestStopsAll (tierRequests config.matcher.tiers
          (config.matcher.effectiveRadius 500.0) points)).run.run 0 = (.ok hits, 1) ∧
        hits.length = points.length * config.matcher.tiers.length) ∧
      ((numberedStops.nearestAll? config.matcher points 500.0 0).run.run 0).1 = .ok none := by
  have settings : (Config.ofText greatestLimit).toOption.map (·.matcher.maxLimit) =
      some 9223372036854775807 := by decide +kernel
  cases read : Config.ofText greatestLimit with
  | error e =>
    rw [read] at settings
    exact absurd settings (Option.some_ne_none _).symm
  | ok config =>
    rw [read] at settings
    have greatest : config.matcher.maxLimit = 9223372036854775807 := Option.some.inj settings
    obtain ⟨hits, stops, aligned⟩ : ∃ hits, (numberedStops.nearestStopsAll (tierRequests
        config.matcher.tiers (config.matcher.effectiveRadius 500.0) [⟨41.0, 2.0⟩])).run.run 0 =
        (.ok hits, 1) ∧ hits.length = [(⟨41.0, 2.0⟩ : Point Float)].length *
          config.matcher.tiers.length := by
      refine ⟨_, rfl, ?_⟩
      rw [List.length_map, List.length_zipIdx, List.length_map, length_tierRequests]
    have beyond : maxSlots < config.matcher.effectiveLimit 0 := by
      rw [MatcherConfig.effectiveLimit_zero, greatest]
      decide
    refine ⟨config, rfl, ⟨hits, stops, aligned⟩, ?_⟩
    rw [run_nearestAll?_of_lt stops aligned (List.cons_ne_nil _ _) beyond]

end Sample

end Gateway

end Whereabouts
