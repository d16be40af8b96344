import Mathlib.Data.List.Nodup
import Mathlib.Data.List.Perm.Subperm
import Whereabouts.Stream.Broker

/-!
# Consumer groups

What delivering and acknowledging do to a group. The entries before `next` were delivered; those of
them that are not pending any more are settled.

* `Group.deliver_cases`: a delivery gives some of the pending entries again and the next fresh ones.
* `Group.offsets_acknowledgeAll`: acknowledging takes exactly the named entries off what is pending.
* `Group.Sound.deliver`, `Group.Sound.acknowledgeAll`: both keep a group sound.
-/

namespace Whereabouts.Group

/-- The places of the entries that are pending. -/
def offsets (g : Group) : List Nat := g.pending.map (·.offset)

/-- Whether an entry was delivered and is not pending any more. -/
def Settled (g : Group) (offset : Nat) : Prop := offset < g.next ∧ offset ∉ g.offsets

/-- A group on a stream of `size` entries: only entries that exist were delivered, only entries
that were delivered are pending, and these stand in the order of the stream. -/
structure Sound (g : Group) (size : Nat) : Prop where
  next_le : g.next ≤ size
  pending_lt : ∀ offset ∈ g.offsets, offset < g.next
  ascending : g.offsets.Pairwise (· < ·)

/-- A group that has delivered nothing is sound. -/
lemma Sound.empty (size : Nat) : Sound {} size where
  next_le := Nat.zero_le size
  pending_lt := by simp [offsets]
  ascending := by simp [offsets]

/-- A group stays sound when the stream grows. -/
lemma Sound.grow {g : Group} {size size' : Nat} (sd : g.Sound size) (le : size ≤ size') :
    g.Sound size' :=
  ⟨Nat.le_trans sd.next_le le, sd.pending_lt, sd.ascending⟩

/-- No entry is pending twice. -/
lemma Sound.nodup {g : Group} {size : Nat} (sd : g.Sound size) : g.offsets.Nodup :=
  sd.ascending.imp Nat.ne_of_lt

/-- No more entries are pending than were delivered. -/
lemma Sound.length_offsets_le {g : Group} {size : Nat} (sd : g.Sound size) :
    g.offsets.length ≤ g.next := by
  have sub : g.offsets.Subperm (List.range g.next) :=
    List.subperm_of_subset sd.nodup fun offset h => List.mem_range.2 (sd.pending_lt offset h)
  have le := sub.length_le
  rw [List.length_range] at le
  exact le

section Deliver

variable (claimIdle now : Nat) (consumer : String)

/-- Pending entries are reclaimed in their order. -/
lemma reclaim_sublist (max : Nat) (pending : List Delivery) :
    (reclaim claimIdle now consumer max pending).1.Sublist (pending.map (·.offset)) := by
  induction pending generalizing max with
  | nil => cases max <;> simp [reclaim]
  | cons d rest ih =>
    cases max with
    | zero => simp [reclaim]
    | succ max =>
      unfold reclaim
      split
      next => exact (ih max).cons_cons d.offset
      next => exact (ih (max + 1)).cons d.offset

/-- Delivering again leaves the same entries pending. -/
lemma reclaim_pending (max : Nat) (pending : List Delivery) :
    (reclaim claimIdle now consumer max pending).2.map (·.offset) = pending.map (·.offset) := by
  induction pending generalizing max with
  | nil => cases max <;> simp [reclaim]
  | cons d rest ih =>
    cases max with
    | zero => simp [reclaim]
    | succ max =>
      unfold reclaim
      split
      next => simp [ih max]
      next => simp [ih (max + 1)]

/-- Nothing is delivered again before it has been pending for long. -/
lemma reclaim_of_not_idle (max : Nat) {pending : List Delivery}
    (h : ∀ d ∈ pending, isIdle claimIdle now d = false) :
    reclaim claimIdle now consumer max pending = ([], pending) := by
  induction pending generalizing max with
  | nil => cases max <;> simp [reclaim]
  | cons d rest ih =>
    cases max with
    | zero => simp [reclaim]
    | succ max =>
      have hd := h d List.mem_cons_self
      have hr := ih (max + 1) fun x hx => h x (List.mem_cons_of_mem d hx)
      simp [reclaim, hd, hr]

/-- What is delivered again are the first idle entries. -/
lemma reclaim_offsets (max : Nat) (pending : List Delivery) :
    (reclaim claimIdle now consumer max pending).1 =
      ((pending.filter (isIdle claimIdle now)).take max).map (·.offset) := by
  induction pending generalizing max with
  | nil => cases max <;> simp [reclaim]
  | cons d rest ih =>
    cases max with
    | zero => simp [reclaim]
    | succ max =>
      unfold reclaim
      split
      next idle => simp [idle, ih max]
      next busy => simp [busy, ih (max + 1)]

/-- What is pending afterwards was either delivered again just now or left as it was. -/
lemma reclaim_cases (max : Nat) {pending : List Delivery} (nd : (pending.map (·.offset)).Nodup)
    {d : Delivery} (h : d ∈ (reclaim claimIdle now consumer max pending).2) :
    d.offset ∈ (reclaim claimIdle now consumer max pending).1 ∧ d.time = now ∨
      d ∈ pending ∧ d.offset ∉ (reclaim claimIdle now consumer max pending).1 := by
  induction pending generalizing max with
  | nil => cases max <;> simp [reclaim] at h
  | cons first rest ih =>
    obtain ⟨apart, nd'⟩ := List.nodup_cons.1 nd
    cases max with
    | zero =>
      refine .inr ⟨by simpa [reclaim] using h, ?_⟩
      simp [reclaim]
    | succ max =>
      unfold reclaim at h ⊢
      split
      next idle =>
        rw [if_pos idle] at h
        obtain rfl | h := List.mem_cons.1 h
        · exact .inl ⟨List.mem_cons_self, rfl⟩
        · obtain ⟨mem, time⟩ | ⟨mem, left⟩ := ih max nd' h
          · exact .inl ⟨List.mem_cons_of_mem _ mem, time⟩
          · refine .inr ⟨List.mem_cons_of_mem _ mem, ?_⟩
            rw [List.mem_cons, not_or]
            refine ⟨fun same => apart ?_, left⟩
            exact List.mem_map.2 ⟨d, mem, same⟩
      next busy =>
        rw [if_neg busy] at h
        obtain rfl | h := List.mem_cons.1 h
        · refine .inr ⟨List.mem_cons_self, fun again => apart ?_⟩
          exact (reclaim_sublist claimIdle now consumer (max + 1) rest).subset again
        · obtain again | ⟨mem, left⟩ := ih (max + 1) nd' h
          · exact .inl again
          · exact .inr ⟨List.mem_cons_of_mem _ mem, left⟩

/-- A delivery gives some of the pending entries again, in order, and then the next fresh ones; the
fresh ones are pending from then on. -/
lemma deliver_cases (g : Group) (max size : Nat) :
    ∃ again fresh, again.Sublist g.offsets ∧ fresh ≤ size - g.next ∧
      (g.deliver claimIdle now consumer max size).1 = again ++ List.range' g.next fresh ∧
      (g.deliver claimIdle now consumer max size).2.next = g.next + fresh ∧
      (g.deliver claimIdle now consumer max size).2.offsets =
        g.offsets ++ List.range' g.next fresh := by
  have sub := reclaim_sublist claimIdle now consumer max g.pending
  have same := reclaim_pending claimIdle now consumer max g.pending
  refine ⟨_, _, sub, Nat.min_le_right _ _, rfl, ?_, ?_⟩
  · simp [deliver]
  · simp [deliver, offsets, same, Function.comp_def]

/-- Where nothing has been pending for long, a delivery gives fresh entries only. -/
lemma deliver_of_not_idle (g : Group) (max size : Nat)
    (h : ∀ d ∈ g.pending, isIdle claimIdle now d = false) :
    ∃ fresh, fresh ≤ size - g.next ∧
      (g.deliver claimIdle now consumer max size).1 = List.range' g.next fresh ∧
      (g.deliver claimIdle now consumer max size).2.next = g.next + fresh ∧
      (g.deliver claimIdle now consumer max size).2.offsets =
        g.offsets ++ List.range' g.next fresh := by
  refine ⟨min max (size - g.next), Nat.min_le_right _ _, ?_, ?_, ?_⟩ <;>
    simp [deliver, offsets, reclaim_of_not_idle claimIdle now consumer max h, Function.comp_def]

variable {claimIdle now consumer}

/-- Delivering keeps a group sound. -/
lemma Sound.deliver {g : Group} {size : Nat} (sd : g.Sound size) (max : Nat) :
    (g.deliver claimIdle now consumer max size).2.Sound size := by
  obtain ⟨again, fresh, -, le, -, en, eo⟩ := deliver_cases claimIdle now consumer g max size
  have nl := sd.next_le
  constructor
  · omega
  · intro offset h
    rw [eo, List.mem_append, List.mem_range'_1] at h
    obtain old | new := h
    · have lt := sd.pending_lt offset old
      omega
    · omega
  · -- the fresh entries come after all that were delivered before
    rw [eo, List.pairwise_append]
    refine ⟨sd.ascending, List.pairwise_lt_range', ?_⟩
    intro a ha b hb
    have lt := sd.pending_lt a ha
    rw [List.mem_range'_1] at hb
    omega

/-- What is delivered stands in the stream. -/
lemma Sound.delivered_lt {g : Group} {size : Nat} (sd : g.Sound size) {max offset : Nat}
    (h : offset ∈ (g.deliver claimIdle now consumer max size).1) : offset < size := by
  obtain ⟨again, fresh, sub, le, ed, -, -⟩ := deliver_cases claimIdle now consumer g max size
  have nl := sd.next_le
  rw [ed, List.mem_append, List.mem_range'_1] at h
  obtain old | new := h
  · have lt := sd.pending_lt offset (sub.subset old)
    omega
  · omega

/-- No delivery gives more than was asked for. -/
lemma length_deliver_le (g : Group) (max size : Nat) :
    (g.deliver claimIdle now consumer max size).1.length ≤ max := by
  have le : (reclaim claimIdle now consumer max g.pending).1.length ≤ max := by
    rw [reclaim_offsets, List.length_map]
    exact List.length_take_le max _
  simp only [deliver, List.length_append, List.length_range']
  omega

/-- A delivery that gives less than was asked for leaves no entry fresh and no idle one out. -/
lemma deliver_of_lt (g : Group) {max size : Nat}
    (lt : (g.deliver claimIdle now consumer max size).1.length < max) :
    size ≤ (g.deliver claimIdle now consumer max size).2.next ∧
      ∀ d ∈ g.pending, isIdle claimIdle now d = true →
        d.offset ∈ (g.deliver claimIdle now consumer max size).1 := by
  simp only [deliver, List.length_append, List.length_range'] at lt ⊢
  constructor
  · omega
  · intro d hd idle
    apply List.mem_append_left
    -- fewer than `max` were idle, so none of them was cut off
    have all : (g.pending.filter (isIdle claimIdle now)).length ≤ max := by
      rw [reclaim_offsets, List.length_map, List.length_take] at lt
      omega
    rw [reclaim_offsets, List.take_of_length_le all]
    exact List.mem_map_of_mem (List.mem_filter.2 ⟨hd, idle⟩)

/-- A delivery that asks for as many entries as there are leaves none of them fresh. -/
lemma Sound.next_deliver {g : Group} {size : Nat} (sd : g.Sound size) {max : Nat}
    (le : size ≤ max) : size ≤ (g.deliver claimIdle now consumer max size).2.next := by
  have nl := sd.next_le
  have pending := sd.length_offsets_le
  have again := (reclaim_sublist claimIdle now consumer max g.pending).length_le
  simp only [Group.deliver, offsets, List.length_range'] at again pending ⊢
  omega

/-- An entry that is delivered again was pending, and for long. -/
lemma idle_of_delivered {g : Group} {max size offset : Nat}
    (h : offset ∈ (g.deliver claimIdle now consumer max size).1) (old : offset < g.next) :
    ∃ d ∈ g.pending, d.offset = offset ∧ isIdle claimIdle now d = true := by
  simp only [deliver, List.mem_append, List.mem_range'_1] at h
  obtain again | fresh := h
  · rw [reclaim_offsets] at again
    obtain ⟨d, hd, e⟩ := List.mem_map.1 again
    obtain ⟨mem, idle⟩ := List.mem_filter.1 (List.take_subset max _ hd)
    exact ⟨d, mem, e, idle⟩
  · omega

/-- What is pending after a delivery was part of it, or was left as it was. -/
lemma Sound.pending_deliver {g : Group} {size : Nat} (sd : g.Sound size) {max : Nat} {d : Delivery}
    (h : d ∈ (g.deliver claimIdle now consumer max size).2.pending) :
    d.offset ∈ (g.deliver claimIdle now consumer max size).1 ∧ d.time = now ∨
      d ∈ g.pending ∧ d.offset ∉ (g.deliver claimIdle now consumer max size).1 := by
  simp only [Group.deliver, List.mem_append] at h ⊢
  obtain old | fresh := h
  · obtain ⟨again, time⟩ | ⟨mem, left⟩ := reclaim_cases claimIdle now consumer max sd.nodup old
    · exact .inl ⟨.inl again, time⟩
    · refine .inr ⟨mem, ?_⟩
      rintro (again | fresh)
      · exact left again
      · have lt := sd.pending_lt d.offset (List.mem_map_of_mem mem)
        rw [List.mem_range'_1] at fresh
        omega
  · obtain ⟨offset, mem, rfl⟩ := List.mem_map.1 fresh
    exact .inl ⟨.inr mem, rfl⟩

/-- The entries of a delivery stand in the order of the stream. -/
lemma Sound.ascending_deliver {g : Group} {size : Nat} (sd : g.Sound size) (max : Nat) :
    (g.deliver claimIdle now consumer max size).1.Pairwise (· < ·) := by
  obtain ⟨again, fresh, sub, -, ed, -, -⟩ := deliver_cases claimIdle now consumer g max size
  rw [ed, List.pairwise_append]
  refine ⟨sd.ascending.sublist sub, List.pairwise_lt_range', ?_⟩
  intro a ha b hb
  have lt := sd.pending_lt a (sub.subset ha)
  rw [List.mem_range'_1] at hb
  omega

/-- What is delivered is pending afterwards. -/
lemma deliver_subset_offsets {g : Group} {max size offset : Nat}
    (h : offset ∈ (g.deliver claimIdle now consumer max size).1) :
    offset ∈ (g.deliver claimIdle now consumer max size).2.offsets := by
  obtain ⟨again, fresh, sub, -, ed, -, eo⟩ := deliver_cases claimIdle now consumer g max size
  rw [ed, List.mem_append] at h
  rw [eo, List.mem_append]
  exact h.imp (sub.subset ·) id

/-- A delivery settles nothing, and what is settled stays so. -/
lemma settled_deliver {g : Group} {max size offset : Nat} :
    (g.deliver claimIdle now consumer max size).2.Settled offset ↔ g.Settled offset := by
  obtain ⟨again, fresh, -, -, -, en, eo⟩ := deliver_cases claimIdle now consumer g max size
  unfold Settled
  rw [en, eo, List.mem_append, List.mem_range'_1]
  constructor
  · rintro ⟨lt, ni⟩
    rw [not_or] at ni
    exact ⟨by omega, ni.1⟩
  · rintro ⟨lt, ni⟩
    refine ⟨by omega, ?_⟩
    rintro (h | h)
    · exact ni h
    · omega

end Deliver

section Acknowledge

/-- An entry that is acknowledged is pending no longer, and the others are. -/
lemma offsets_acknowledge (g : Group) (offset : Nat) :
    (g.acknowledge offset).2.offsets = g.offsets.filter (· != offset) := by
  simp [acknowledge, offsets, List.filter_map, Function.comp_def]

/-- Acknowledging leaves the place of the first new entry as it is. -/
lemma next_acknowledgeAll (g : Group) (acked : List Nat) :
    (g.acknowledgeAll acked).2.next = g.next := by
  induction acked generalizing g with
  | nil => rfl
  | cons offset rest ih => exact ih (g.acknowledge offset).2

/-- Acknowledging makes nothing pending and leaves what stays pending as it was. -/
lemma pending_acknowledgeAll_subset (g : Group) (acked : List Nat) :
    (g.acknowledgeAll acked).2.pending ⊆ g.pending := by
  induction acked generalizing g with
  | nil => exact List.Subset.refl _
  | cons offset rest ih =>
    have one : (g.acknowledge offset).2.pending ⊆ g.pending := List.filter_subset_self g.pending
    exact List.Subset.trans (ih (g.acknowledge offset).2) one

/-- Acknowledging takes the named entries off the pending ones, and only these. -/
lemma offsets_acknowledgeAll (g : Group) (acked : List Nat) :
    (g.acknowledgeAll acked).2.offsets = g.offsets.filter (· ∉ acked) := by
  induction acked generalizing g with
  | nil => simp [acknowledgeAll]
  | cons offset rest ih =>
    show (acknowledgeAll (g.acknowledge offset).2 rest).2.offsets = _
    rw [ih, offsets_acknowledge, List.filter_filter]
    apply List.filter_congr
    intro x _
    by_cases e : x = offset <;> simp [e]

/-- An acknowledgement counts where the entry was pending. -/
lemma toNat_acknowledge {g : Group} (nd : g.offsets.Nodup) (offset : Nat) :
    (g.acknowledge offset).1.toNat = g.offsets.countP (· == offset) := by
  have e : (g.acknowledge offset).1 = decide (offset ∈ g.offsets) := by
    rw [Bool.eq_iff_iff]
    simp [acknowledge, offsets]
  rw [e, ← List.count_eq_countP]
  by_cases h : offset ∈ g.offsets
  · simp [h, List.count_eq_one_of_mem nd h]
  · simp [h, List.count_eq_zero_of_not_mem h]

/-- The answer to an acknowledgement is the number of pending entries that were named. -/
lemma count_acknowledgeAll {g : Group} (nd : g.offsets.Nodup) (acked : List Nat) :
    (g.acknowledgeAll acked).1 = (g.offsets.filter (· ∈ acked)).length := by
  induction acked generalizing g with
  | nil => simp [acknowledgeAll]
  | cons offset rest ih =>
    have one := offsets_acknowledge g offset
    have nd' : (g.acknowledge offset).2.offsets.Nodup := one ▸ nd.filter _
    -- the entries named are the first one and those of the rest that are not the first one
    have parts := List.countP_eq_countP_filter_add g.offsets (· ∈ offset :: rest) (· != offset)
    show (acknowledgeAll (g.acknowledge offset).2 rest).1 + (g.acknowledge offset).1.toNat = _
    rw [ih nd', one, toNat_acknowledge nd, ← List.countP_eq_length_filter,
      ← List.countP_eq_length_filter, parts]
    congr 1
    · apply List.countP_congr
      intro x hx
      have ne : x ≠ offset := by simpa using (List.mem_filter.1 hx).2
      simp [ne]
    · rw [List.countP_filter]
      apply List.countP_congr
      intro x _
      by_cases e : x = offset <;> simp [e]

/-- Acknowledging keeps a group sound. -/
lemma Sound.acknowledgeAll {g : Group} {size : Nat} (sd : g.Sound size) (acked : List Nat) :
    (g.acknowledgeAll acked).2.Sound size := by
  have en := next_acknowledgeAll g acked
  have eo := offsets_acknowledgeAll g acked
  constructor
  · rw [en]
    exact sd.next_le
  · intro offset h
    rw [eo, List.mem_filter] at h
    rw [en]
    exact sd.pending_lt offset h.1
  · rw [eo]
    exact sd.ascending.filter _

/-- What acknowledging settles are the pending entries that were named. -/
lemma Sound.settled_acknowledgeAll {g : Group} {size : Nat} (sd : g.Sound size)
    {acked : List Nat} {offset : Nat} :
    (g.acknowledgeAll acked).2.Settled offset ↔
      g.Settled offset ∨ offset ∈ g.offsets ∧ offset ∈ acked := by
  unfold Settled
  rw [next_acknowledgeAll, offsets_acknowledgeAll, List.mem_filter]
  have lt := sd.pending_lt offset
  by_cases h1 : offset ∈ g.offsets
  · simp [h1, lt h1]
  · simp [h1]

end Acknowledge

end Whereabouts.Group
