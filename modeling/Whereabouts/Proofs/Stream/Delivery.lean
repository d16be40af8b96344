import Whereabouts.Proofs.Stream.Fleet

/-!
# What has been delivered to a group

While nothing is pending for long, a group is given the entries of its stream in order, each once.

* `Broker.poll_delivered`: a poll gives the entries after those that were delivered before.
* `Broker.Sound.isPending_ack`: an acknowledgement leaves all entries pending that it does not name.
* `Broker.keeps_after`: other operations change nothing for the group.
* `Broker.Sound.delivered_of_drained`: to a drained group everything was delivered.
-/

namespace Whereabouts

/-- Whether an operation delivers to a group or acknowledges in it. -/
def Operation.Touches (stream group : String) : Operation → Prop
  | .poll _ k l _ _ => k = stream ∧ l = group
  | .ack k l _ => k = stream ∧ l = group
  | _ => False

namespace Broker

/-- How many entries were delivered to a group. -/
def next (b : Broker) (stream group : String) : Nat :=
  ((b.group? stream group).map (·.next)).getD 0

/-- The entries that were delivered to a group. -/
def delivered (b : Broker) (stream group : String) : List Message :=
  (b.entries stream).take (b.next stream group)

/-- The entries from a place on, one by one. -/
lemma take_add_range' {β : Type} (l : List β) (n k : Nat) :
    l.take (n + k) = l.take n ++ (List.range' n k).filterMap fun i => l[i]? := by
  induction k with
  | zero => simp
  | succ k ih =>
    rw [← Nat.add_assoc, List.take_add_one, ih, List.range'_concat, List.filterMap_append,
      List.append_assoc, Nat.one_mul]
    congr 2

section Sound

variable {b b' : Broker} {stream group : String}

/-- The entries of a sound broker have different names. -/
lemma Sound.nodup_ids (sd : b.Sound) (stream : String) :
    ((b.entries stream).map (·.id)).Nodup := by
  rw [List.nodup_iff_getElem?_ne_getElem?]
  intro i j lt len e
  rw [List.length_map] at len
  rw [List.getElem?_map, List.getElem?_map, List.getElem?_eq_getElem len,
    List.getElem?_eq_getElem (Nat.lt_trans lt len)] at e
  have same := sd.id_inj (List.getElem?_eq_getElem (Nat.lt_trans lt len))
    (List.getElem?_eq_getElem len) (Option.some.inj e)
  omega

/-- A group has delivered no more entries than there are. -/
lemma Sound.next_le (sd : b.Sound) : b.next stream group ≤ (b.entries stream).length := by
  unfold next
  cases h : b.group? stream group with
  | none => exact Nat.zero_le _
  | some g => exact (sd.groups stream group g h).next_le

/-- While the count stays, the same entries were delivered. -/
lemma Grows.delivered_eq (gr : b.Grows b') (sd : b.Sound)
    (e : b'.next stream group = b.next stream group) :
    b'.delivered stream group = b.delivered stream group := by
  obtain ⟨more, em⟩ := gr.entries stream
  unfold delivered
  rw [e, ← em, List.take_append_of_le_length sd.next_le]

/-- A poll gives the entries after those that were delivered before. -/
lemma poll_delivered {now max : Nat} {consumer : String} {messages : List Message}
    (h : b.poll now stream group consumer max = .ok (messages, b'))
    (calm : ∀ g, b.group? stream group = some g →
      ∀ d ∈ g.pending, Group.isIdle b.claimIdle now d = false) :
    b'.delivered stream group = b.delivered stream group ++ messages := by
  obtain ⟨g, hg, rfl, bc⟩ := poll_spec h
  obtain ⟨fresh, -, ed, en, -⟩ := Group.deliver_of_not_idle b.claimIdle now consumer g max
    (b.entries stream).length (calm g hg)
  have next : b.next stream group = g.next := by simp [Broker.next, hg]
  have next' : b'.next stream group = g.next + fresh := by
    simp [Broker.next, bc.groups, withGroup, en]
  unfold delivered
  rw [next, next', bc.entries, ed, take_add_range']

/-- What a poll gives is pending afterwards. -/
lemma poll_pending {now max : Nat} {consumer : String} {messages : List Message}
    (h : b.poll now stream group consumer max = .ok (messages, b')) {m : Message}
    (hm : m ∈ messages) : ∃ offset, (b'.entries stream)[offset]? = some m ∧
      b'.IsPending stream group offset := by
  obtain ⟨g, hg, rfl, bc⟩ := poll_spec h
  obtain ⟨offset, ho, here⟩ := List.mem_filterMap.1 hm
  refine ⟨offset, ?_, _, ?_, Group.deliver_subset_offsets ho⟩
  · rw [bc.entries]
    exact here
  · rw [bc.groups]
    exact if_pos ⟨rfl, rfl⟩

/-- An entry that is pending stays so when the group is polled. -/
lemma isPending_poll {now max offset : Nat} {consumer : String} {messages : List Message}
    (h : b.poll now stream group consumer max = .ok (messages, b'))
    (pd : b.IsPending stream group offset) : b'.IsPending stream group offset := by
  obtain ⟨g, hg, -, bc⟩ := poll_spec h
  obtain ⟨again, fresh, -, -, -, -, eo⟩ := Group.deliver_cases b.claimIdle now consumer g max
    (b.entries stream).length
  obtain ⟨g', hg', mem⟩ := pd
  cases hg.symm.trans hg'
  refine ⟨_, (bc.groups stream group).trans (if_pos ⟨rfl, rfl⟩), ?_⟩
  rw [eo]
  exact List.mem_append_left _ mem

/-- Acknowledging leaves the place of the first new entry as it is. -/
lemma next_ack {ids : List MessageId} {count : Nat}
    (h : b.ack stream group ids = .ok (count, b')) :
    b'.next stream group = b.next stream group := by
  obtain ⟨g, hg, -, bc⟩ := ackNames_spec h
  simp [Broker.next, bc.groups, withGroup, hg, Group.next_acknowledgeAll]

/-- An acknowledgement leaves all entries pending that it does not name. -/
lemma Sound.isPending_ack (sd : b.Sound) {ids : List MessageId} {count offset : Nat}
    (h : b.ack stream group ids = .ok (count, b')) {m : Message}
    (hm : (b.entries stream)[offset]? = some m) (ni : m.id ∉ ids)
    (pd : b.IsPending stream group offset) : b'.IsPending stream group offset := by
  obtain ⟨g, hg, -, bc⟩ := ackNames_spec h
  obtain ⟨g', hg', mem⟩ := pd
  cases hg.symm.trans hg'
  refine ⟨_, (bc.groups stream group).trans (if_pos ⟨rfl, rfl⟩), ?_⟩
  rw [Group.offsets_acknowledgeAll, List.mem_filter, decide_eq_true_eq, sd.mem_filterMap_offset?]
  refine ⟨mem, ?_⟩
  rintro ⟨m', hm', hid⟩
  cases hm.symm.trans hm'
  exact ni (MessageId.text_mem_map.1 hid)

/-- Where a group stays the same, so do its pending entries. -/
lemma keeps_of_group_eq (e : b'.group? stream group = b.group? stream group) :
    b'.next stream group = b.next stream group ∧
      ∀ offset, b.IsPending stream group offset → b'.IsPending stream group offset := by
  unfold Broker.next IsPending
  rw [e]
  exact ⟨rfl, fun _ => id⟩

/-- An operation that is none of the group's business delivers nothing to it and acknowledges
nothing in it. -/
lemma keeps_after {op : Operation} (nt : ¬ op.Touches stream group) :
    (b.after op).next stream group = b.next stream group ∧
      ∀ offset, b.IsPending stream group offset → (b.after op).IsPending stream group offset := by
  obtain ⟨-, -, e⟩ | ⟨answer, sc⟩ := after_inv b op
  · rw [e]
    exact ⟨rfl, fun _ => id⟩
  · generalize b.after op = b' at sc
    cases sc with
    | @createGroup k l _ h =>
      have e := (createGroup_spec h).groups stream group
      by_cases same : stream = k ∧ group = l
      · obtain ⟨rfl, rfl⟩ := same
        rw [withGroup, if_pos ⟨rfl, rfl⟩] at e
        -- a new group is like a missing one: nothing was delivered to it
        cases hg : b.group? stream group with
        | none => simp [Broker.next, IsPending, e, hg]
        | some g =>
          rw [hg] at e
          exact keeps_of_group_eq (e.trans hg.symm)
      · exact keeps_of_group_eq (e.trans (if_neg same))
    | publish h => exact keeps_of_group_eq ((publish_spec h).groups stream group)
    | poll h =>
      obtain ⟨g, -, -, bc⟩ := poll_spec h
      refine keeps_of_group_eq ((bc.groups stream group).trans (if_neg ?_))
      rintro ⟨rfl, rfl⟩
      exact nt ⟨rfl, rfl⟩
    | ack h =>
      obtain ⟨g, -, -, bc⟩ := ackNames_spec h
      refine keeps_of_group_eq ((bc.groups stream group).trans (if_neg ?_))
      rintro ⟨rfl, rfl⟩
      exact nt ⟨rfl, rfl⟩
    | close => exact keeps_of_group_eq rfl

/-- A broker stays open unless it is closed. -/
lemma open_after {op : Operation} (ne : op ≠ .close) (h : b.closed = false) :
    (b.after op).closed = false := by
  obtain ⟨-, -, e⟩ | ⟨answer, sc⟩ := after_inv b op
  · rw [e]
    exact h
  · generalize b.after op = b' at sc
    cases sc with
    | createGroup h => exact (createGroup_spec h).is_open
    | publish h => exact (publish_spec h).is_open
    | poll h =>
      obtain ⟨g, -, -, bc⟩ := poll_spec h
      exact bc.is_open
    | ack h =>
      obtain ⟨g, -, -, bc⟩ := ackNames_spec h
      exact bc.is_open
    | close => exact absurd rfl ne

/-- Nothing but publishing on a stream adds to its entries. -/
lemma entries_after {op : Operation} (ne : ∀ now payload, op ≠ .publish now stream payload) :
    (b.after op).entries stream = b.entries stream := by
  obtain ⟨-, -, e⟩ | ⟨answer, sc⟩ := after_inv b op
  · rw [e]
  · generalize b.after op = b' at sc
    cases sc with
    | createGroup h => exact (createGroup_spec h).entries stream
    | @publish now k payload _ _ h =>
      rw [(publish_spec h).entries]
      refine if_neg ?_
      rintro rfl
      exact ne now payload rfl
    | poll h =>
      obtain ⟨g, -, -, bc⟩ := poll_spec h
      exact bc.entries stream
    | ack h =>
      obtain ⟨g, -, -, bc⟩ := ackNames_spec h
      exact bc.entries stream
    | close => rfl

/-- An entry with this name is pending in a group. -/
def HasPending (b : Broker) (stream group : String) (id : MessageId) : Prop :=
  ∃ offset m, (b.entries stream)[offset]? = some m ∧ m.id = id ∧ b.IsPending stream group offset

/-- What is pending stays so where no entry and nothing pending is taken back. -/
lemma HasPending.mono {id : MessageId} (gr : b.Grows b')
    (keep : ∀ offset, b.IsPending stream group offset → b'.IsPending stream group offset)
    (hp : b.HasPending stream group id) : b'.HasPending stream group id := by
  obtain ⟨offset, m, hm, e, pd⟩ := hp
  exact ⟨offset, m, gr.getElem? hm, e, keep offset pd⟩

/-- To a group that is drained everything was delivered, and nothing is pending. -/
lemma Sound.delivered_of_drained (sd : b.Sound) (there : (b.group? stream group).isSome)
    (drained : b.isDrained stream group = true) :
    b.delivered stream group = b.entries stream ∧ ∀ id, ¬ b.HasPending stream group id := by
  obtain ⟨g, hg⟩ := Option.isSome_iff_exists.1 there
  obtain missing | all := sd.isDrained_iff.1 drained
  · rw [hg] at missing
    cases missing
  · have next : b.next stream group = g.next := by simp [Broker.next, hg]
    constructor
    · apply List.take_of_length_le
      rw [next]
      by_contra lt
      exact Nat.lt_irrefl g.next ((isSettled_iff hg).1 (all g.next (by omega))).1
    · rintro id ⟨offset, m, hm, -, g', hg', mem⟩
      cases hg.symm.trans hg'
      have settled := all offset (List.getElem?_eq_some_iff.1 hm).1
      exact ((isSettled_iff hg).1 settled).2 mem

end Sound

end Broker

end Whereabouts
