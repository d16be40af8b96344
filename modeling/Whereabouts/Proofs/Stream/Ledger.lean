import Mathlib.Data.Finset.Dedup
import Mathlib.Data.Finset.Card
import Whereabouts.Proofs.Stream.View
import Whereabouts.Stream.Local

/-!
# The ledger of a broker

Operations on a broker are put into a list, so that statements can be made about everything that
may have happened to it. Main statement: after any list of operations the broker is sound, and each
entry is undelivered, pending or acknowledged in each group, where an entry is acknowledged if one
of the operations has named it while it was pending.
-/

namespace Whereabouts

/-- An operation on a broker, with all that is given to it. -/
inductive Operation where
  | createGroup (stream group : String)
  | publish (now : Int) (stream payload : String)
  | poll (now : Nat) (stream group consumer : String) (max : Nat)
  | ack (stream group : String) (names : List String)
  | close

/-- What a broker answers to an operation. -/
inductive Answer where
  | done
  | published (id : MessageId)
  | delivered (messages : List Message)
  | acknowledged (count : Nat)

namespace Broker

/-- Does an operation. -/
def apply (b : Broker) : Operation → Except BrokerError (Answer × Broker)
  | .createGroup stream group => (b.createGroup stream group).map fun b => (.done, b)
  | .publish now stream payload =>
    (b.publish now stream payload).map fun (id, b) => (.published id, b)
  | .poll now stream group consumer max =>
    (b.poll now stream group consumer max).map fun (messages, b) => (.delivered messages, b)
  | .ack stream group names =>
    (b.ackNames stream group names).map fun (count, b) => (.acknowledged count, b)
  | .close => .ok (.done, b.close)

/-- Does an operation on a broker that is held as state. -/
def execute (op : Operation) : StateM Broker (Except BrokerError Answer) :=
  perform (m := Id) fun b => b.apply op

/-- The broker after an operation. -/
def after (b : Broker) (op : Operation) : Broker := ((execute op).run b).2

/-- The broker after several operations. -/
def afterAll (b : Broker) (ops : List Operation) : Broker := ops.foldl after b

/-- Whether an entry was never delivered to a group. -/
def IsFresh (b : Broker) (stream group : String) (offset : Nat) : Prop :=
  ∃ g, b.group? stream group = some g ∧ g.next ≤ offset

/-- Whether an entry is pending in a group. -/
def IsPending (b : Broker) (stream group : String) (offset : Nat) : Prop :=
  ∃ g, b.group? stream group = some g ∧ offset ∈ g.offsets

/-- Whether an entry was delivered to a group and is not pending any more. -/
def IsSettled (b : Broker) (stream group : String) (offset : Nat) : Prop :=
  ∃ g, b.group? stream group = some g ∧ g.Settled offset

/-- Whether an acknowledgement of `names` takes an entry off the pending ones. -/
def Acks (b : Broker) (stream group : String) (names : List String) (offset : Nat) : Prop :=
  b.closed = false ∧ b.IsPending stream group offset ∧
    ∃ m, (b.entries stream)[offset]? = some m ∧ m.id.text ∈ names

/-- An operation succeeds with an answer and leaves another broker. -/
inductive Succeeds (b : Broker) : Operation → Answer → Broker → Prop where
  | createGroup {stream group b'} :
    b.createGroup stream group = .ok b' →
    Succeeds b (.createGroup stream group) .done b'
  | publish {now stream payload id b'} :
    b.publish now stream payload = .ok (id, b') →
    Succeeds b (.publish now stream payload) (.published id) b'
  | poll {now stream group consumer max messages b'} :
    b.poll now stream group consumer max = .ok (messages, b') →
    Succeeds b (.poll now stream group consumer max) (.delivered messages) b'
  | ack {stream group names count b'} :
    b.ackNames stream group names = .ok (count, b') →
    Succeeds b (.ack stream group names) (.acknowledged count) b'
  | close : Succeeds b .close .done b.close

section Step

variable {b b' : Broker} {op : Operation} {stream group : String} {offset : Nat}

/-- What an operation does where it succeeds. -/
lemma apply_inv {answer : Answer} (h : b.apply op = .ok (answer, b')) :
    b.Succeeds op answer b' := by
  cases op with
  | createGroup stream group =>
    cases e : b.createGroup stream group with
    | error => simp [apply, e, Except.map] at h
    | ok =>
      simp only [apply, e, Except.map] at h
      cases h
      exact .createGroup e
  | publish now stream payload =>
    cases e : b.publish now stream payload with
    | error => simp [apply, e, Except.map] at h
    | ok =>
      simp only [apply, e, Except.map] at h
      cases h
      exact .publish e
  | poll now stream group consumer max =>
    cases e : b.poll now stream group consumer max with
    | error => simp [apply, e, Except.map] at h
    | ok =>
      simp only [apply, e, Except.map] at h
      cases h
      exact .poll e
  | ack stream group names =>
    cases e : b.ackNames stream group names with
    | error => simp [apply, e, Except.map] at h
    | ok =>
      simp only [apply, e, Except.map] at h
      cases h
      exact .ack e
  | close =>
    cases h
    exact .close

/-- An operation that fails changes nothing. -/
lemma execute_of_error {e : BrokerError} (h : (execute op).run b = (.error e, b')) : b' = b := by
  unfold execute perform at h
  cases ha : b.apply op with
  | error e1 =>
    simp only [StateT.run, ha] at h
    cases h
    rfl
  | ok r =>
    simp only [StateT.run, ha] at h
    cases h

/-- After an operation that succeeds the broker is the one that it gives. -/
lemma after_of_ok {answer : Answer} (h : b.apply op = .ok (answer, b')) : b.after op = b' := by
  unfold after execute perform
  simp only [StateT.run, h]
  rfl

/-- After an operation that fails the broker is as it was. -/
lemma after_of_error {e : BrokerError} (h : b.apply op = .error e) : b.after op = b := by
  unfold after execute perform
  simp only [StateT.run, h]
  rfl

/-- The broker after an operation is the one that it leaves, or the same one where it fails. -/
lemma after_inv (b : Broker) (op : Operation) :
    (∃ e, b.apply op = .error e ∧ b.after op = b) ∨
      ∃ answer, b.Succeeds op answer (b.after op) := by
  cases h : b.apply op with
  | error e => exact .inl ⟨e, rfl, after_of_error h⟩
  | ok r =>
    rw [after_of_ok h]
    exact .inr ⟨r.1, apply_inv h⟩

/-- A broker stays sound whatever is done. -/
lemma Sound.after (sd : b.Sound) (op : Operation) : (b.after op).Sound := by
  obtain ⟨-, -, e⟩ | ⟨answer, sc⟩ := after_inv b op
  · rw [e]
    exact sd
  · cases sc with
    | createGroup h => exact sd.createGroup h
    | publish h => exact sd.publish h
    | poll h => exact sd.poll h
    | ack h => exact sd.ackNames h
    | close => exact sd.close

/-- An entry is settled for a group that is there where the group has settled it. -/
lemma isSettled_iff {g : Group} (h : b.group? stream group = some g) :
    b.IsSettled stream group offset ↔ g.Settled offset := by
  simp [IsSettled, h]

/-- An entry is settled for a group where its state has settled it. -/
lemma settled_getD :
    ((b.group? stream group).getD {}).Settled offset ↔ b.IsSettled stream group offset := by
  cases h : b.group? stream group with
  | none => simp [IsSettled, Group.Settled, h]
  | some g => exact (isSettled_iff h).symm

/-- Where the groups are seen as before, the same entries are settled. -/
lemma Becomes.isSettled_iff {entries : String → List Message}
    (bc : b.Becomes b' entries b.group?) :
    b'.IsSettled stream group offset ↔ b.IsSettled stream group offset := by
  unfold IsSettled
  rw [bc.groups]

/-- Where one group changes, the entries that are settled change in this group only. -/
lemma Becomes.isSettled_withGroup {entries : String → List Message} {k l : String} {g : Group}
    (bc : b.Becomes b' entries (b.withGroup k l g)) :
    b'.IsSettled stream group offset ↔
      if stream = k ∧ group = l then g.Settled offset else b.IsSettled stream group offset := by
  unfold IsSettled
  rw [bc.groups]
  unfold withGroup
  split
  · simp
  · rfl

/-- An acknowledgement of a delivered entry succeeds. -/
lemma Acks.succeeds {names : List String} (ak : b.Acks stream group names offset) :
    ∃ count b', b.ackNames stream group names = .ok (count, b') := by
  obtain ⟨op, ⟨g, hg, -⟩, -⟩ := ak
  exact ackNames_of_open op hg names

/-- Names are acknowledged at the places of their entries. -/
lemma Sound.mem_filterMap_offset? (sd : b.Sound) {names : List String} :
    offset ∈ names.filterMap (b.offset? stream) ↔
      ∃ m, (b.entries stream)[offset]? = some m ∧ m.id.text ∈ names := by
  rw [List.mem_filterMap]
  constructor
  · rintro ⟨name, hid, ho⟩
    obtain ⟨m, hm, rfl⟩ := sd.offset?_eq_some_iff.1 ho
    exact ⟨m, hm, hid⟩
  · rintro ⟨m, hm, hid⟩
    exact ⟨m.id.text, hid, sd.offset?_eq_some_iff.2 ⟨m, hm, rfl⟩⟩

/-- Acknowledging settles the pending entries that are named. -/
lemma Sound.isSettled_ack (sd : b.Sound) {names : List String} {count : Nat}
    (h : b.ackNames stream group names = .ok (count, b')) :
    b'.IsSettled stream group offset ↔
      b.IsSettled stream group offset ∨ b.Acks stream group names offset := by
  obtain ⟨g, hg, -, bc⟩ := ackNames_spec h
  have gs := sd.groups stream group g hg
  rw [bc.isSettled_withGroup, if_pos ⟨rfl, rfl⟩, gs.settled_acknowledgeAll,
    sd.mem_filterMap_offset?, isSettled_iff hg]
  simp [Acks, IsPending, bc.was_open, hg]

/-- Entries are settled by acknowledging them while they are pending, and in no other way. -/
lemma Sound.isSettled_after (sd : b.Sound) (op : Operation) :
    (b.after op).IsSettled stream group offset ↔ b.IsSettled stream group offset ∨
      ∃ names, op = .ack stream group names ∧ b.Acks stream group names offset := by
  obtain ⟨e, he, same⟩ | ⟨answer, sc⟩ := after_inv b op
  · rw [same]
    constructor
    · exact .inl
    · rintro (st | ⟨names, rfl, ak⟩)
      · exact st
      · obtain ⟨count, b', ok⟩ := ak.succeeds
        simp [apply, ok, Except.map] at he
  · generalize b.after op = b' at sc
    cases sc with
    | @createGroup k l _ h =>
      -- a group that was missing has settled nothing, and neither has a new one
      rw [(createGroup_spec h).isSettled_withGroup, settled_getD]
      by_cases same : stream = k ∧ group = l
      · simp [same]
      · simp [same]
    | publish h =>
      rw [(publish_spec h).isSettled_iff]
      simp
    | @poll now k l consumer max messages _ h =>
      obtain ⟨g, hg, -, bc⟩ := poll_spec h
      rw [bc.isSettled_withGroup, Group.settled_deliver, ← isSettled_iff hg]
      by_cases same : stream = k ∧ group = l
      · simp [same]
      · simp [same]
    | @ack k l names count _ h =>
      by_cases same : stream = k ∧ group = l
      · obtain ⟨rfl, rfl⟩ := same
        rw [sd.isSettled_ack h]
        simp
      · obtain ⟨g, -, -, bc⟩ := ackNames_spec h
        rw [bc.isSettled_withGroup, if_neg same]
        have ne : ∀ names', Operation.ack k l names ≠ .ack stream group names' := by
          rintro names' e
          cases e
          exact same ⟨rfl, rfl⟩
        simp [ne]
    | close =>
      have same : b.close.IsSettled stream group offset ↔ b.IsSettled stream group offset :=
        Iff.rfl
      simp [same]

end Step

section History

variable (claimIdle : Nat) (ops : List Operation) (stream group : String) (offset : Nat)

/-- Whether one of the operations, from an empty broker on, has acknowledged an entry: it has named
the entry while the entry was pending. -/
def Acknowledged : Prop :=
  ∃ earlier names later, ops = earlier ++ .ack stream group names :: later ∧
    (afterAll { claimIdle } earlier).Acks stream group names offset

/-- What can have become of an entry in a group. -/
inductive Standing where
  | undelivered
  | pending
  | acknowledged
deriving DecidableEq

/-- What has become of an entry in a group. -/
def Stands : Standing → Prop
  | .undelivered => (afterAll { claimIdle } ops).IsFresh stream group offset
  | .pending => (afterAll { claimIdle } ops).IsPending stream group offset
  | .acknowledged => Acknowledged claimIdle ops stream group offset

/-- One operation more is done after the others. -/
lemma afterAll_concat (b : Broker) (op : Operation) :
    b.afterAll (ops ++ [op]) = (b.afterAll ops).after op := by
  simp [afterAll]

/-- From the start a broker is sound whatever is done. -/
lemma sound_afterAll : (afterAll { claimIdle } ops).Sound := by
  induction ops using List.reverseRecOn with
  | nil => exact Sound.empty claimIdle
  | append_singleton ops op ih =>
    rw [afterAll_concat]
    exact ih.after op

/-- What one more operation has acknowledged. -/
lemma acknowledged_concat (op : Operation) :
    Acknowledged claimIdle (ops ++ [op]) stream group offset ↔
      Acknowledged claimIdle ops stream group offset ∨ ∃ names, op = .ack stream group names ∧
        (afterAll { claimIdle } ops).Acks stream group names offset := by
  constructor
  · rintro ⟨earlier, names, later, e, ak⟩
    -- the acknowledgement is the new operation, or the new operation came after it
    induction later using List.reverseRecOn with
    | nil =>
      obtain ⟨rfl, last⟩ := List.append_inj' e rfl
      cases last
      exact .inr ⟨names, rfl, ak⟩
    | append_singleton later op' _ =>
      rw [← List.cons_append, ← List.append_assoc] at e
      obtain ⟨rfl, -⟩ := List.append_inj' e rfl
      exact .inl ⟨earlier, names, later, rfl, ak⟩
  · rintro (⟨earlier, names, later, rfl, ak⟩ | ⟨names, rfl, ak⟩)
    · exact ⟨earlier, names, later ++ [op], by simp, ak⟩
    · exact ⟨ops, names, [], rfl, ak⟩

/-- The entries that were acknowledged are those that were delivered and are not pending. -/
lemma acknowledged_iff :
    Acknowledged claimIdle ops stream group offset ↔
      (afterAll { claimIdle } ops).IsSettled stream group offset := by
  induction ops using List.reverseRecOn with
  | nil => simp [Acknowledged, afterAll, IsSettled, group?, stream?, lookUp]
  | append_singleton ops op ih =>
    rw [acknowledged_concat, afterAll_concat, (sound_afterAll claimIdle ops).isSettled_after, ih]

end History

section Drained

variable {b b' : Broker} {stream group : String}

/-- A group has nothing left to do where it is missing or has settled every entry. -/
lemma Sound.isDrained_iff (sd : b.Sound) :
    b.isDrained stream group = true ↔ b.group? stream group = none ∨
      ∀ offset < (b.entries stream).length, b.IsSettled stream group offset := by
  unfold isDrained
  cases hs : b.stream? stream with
  | none => simp [group?, hs]
  | some s =>
    rw [group?_eq hs, entries_eq hs]
    cases hg : s.group? group with
    | none => simp [hg]
    | some g =>
      have hbg : b.group? stream group = some g := (group?_eq hs group).trans hg
      have gs := sd.groups stream group g hbg
      rw [entries_eq hs] at gs
      simp only [hg, Option.all_some, reduceCtorEq, false_or, isSettled_iff hbg]
      unfold Group.isDrained
      rw [Bool.and_eq_true, List.isEmpty_iff, decide_eq_true_eq]
      constructor
      · rintro ⟨ep, le⟩ offset lt
        exact ⟨Nat.lt_of_lt_of_le lt le, by simp [Group.offsets, ep]⟩
      · intro all
        constructor
        · apply List.eq_nil_iff_forall_not_mem.2
          intro d hd
          have mem : d.offset ∈ g.offsets := List.mem_map_of_mem hd
          have lt := gs.pending_lt d.offset mem
          exact (all d.offset (Nat.lt_of_lt_of_le lt gs.next_le)).2 mem
        · -- the first entry that was not delivered cannot be settled
          by_contra lt
          exact Nat.lt_irrefl g.next (all g.next (by omega)).1

end Drained

section Standing

variable {claimIdle : Nat} {ops : List Operation} {stream group : String} {g : Group}

/-- An entry is undelivered, pending or acknowledged in a group that exists, and only one of
these. -/
lemma existsUnique_stands (hg : (afterAll { claimIdle } ops).group? stream group = some g)
    (offset : Nat) : ∃! standing, Stands claimIdle ops stream group offset standing := by
  have gs := (sound_afterAll claimIdle ops).groups stream group g hg
  have lt := gs.pending_lt offset
  have fresh : Stands claimIdle ops stream group offset .undelivered ↔ g.next ≤ offset := by
    simp [Stands, IsFresh, hg]
  have pending : Stands claimIdle ops stream group offset .pending ↔ offset ∈ g.offsets := by
    simp [Stands, IsPending, hg]
  have acked : Stands claimIdle ops stream group offset .acknowledged ↔ g.Settled offset :=
    (acknowledged_iff claimIdle ops stream group offset).trans (isSettled_iff hg)
  by_cases h1 : g.next ≤ offset
  · refine ⟨.undelivered, fresh.2 h1, ?_⟩
    intro standing h
    cases standing with
    | undelivered => rfl
    | pending => exact absurd (lt (pending.1 h)) (by omega)
    | acknowledged => exact absurd (acked.1 h).1 (by omega)
  · by_cases h2 : offset ∈ g.offsets
    · refine ⟨.pending, pending.2 h2, ?_⟩
      intro standing h
      cases standing with
      | undelivered => exact absurd (fresh.1 h) h1
      | pending => rfl
      | acknowledged => exact absurd h2 (acked.1 h).2
    · refine ⟨.acknowledged, acked.2 ⟨by omega, h2⟩, ?_⟩
      intro standing h
      cases standing with
      | undelivered => exact absurd (fresh.1 h) h1
      | pending => exact absurd (pending.1 h) h2
      | acknowledged => rfl

/-- The answer to an acknowledgement is the number of entries that it moves from pending to
acknowledged. -/
lemma exists_moved {names : List String} {count : Nat} {b' : Broker}
    (h : (afterAll { claimIdle } ops).ackNames stream group names = .ok (count, b')) :
    ∃ moved : Finset Nat, moved.card = count ∧ ∀ offset, offset ∈ moved ↔
      Stands claimIdle ops stream group offset .pending ∧
      Stands claimIdle (ops ++ [.ack stream group names]) stream group offset .acknowledged := by
  have sd := sound_afterAll claimIdle ops
  obtain ⟨g, hg, ec, bc⟩ := ackNames_spec h
  have gs := sd.groups stream group g hg
  -- names may be repeated, so the entries are counted among the pending ones
  let named := names.filterMap ((afterAll { claimIdle } ops).offset? stream)
  refine ⟨(g.offsets.filter (· ∈ named)).toFinset, ?_, ?_⟩
  · rw [ec, Group.count_acknowledgeAll gs.nodup]
    exact List.toFinset_card_of_nodup (gs.nodup.filter _)
  · intro offset
    have pending : Stands claimIdle ops stream group offset .pending ↔ offset ∈ g.offsets := by
      simp [Stands, IsPending, hg]
    have acked : Stands claimIdle (ops ++ [.ack stream group names]) stream group offset
        .acknowledged ↔ g.Settled offset ∨
          (afterAll { claimIdle } ops).Acks stream group names offset := by
      unfold Stands
      rw [acknowledged_concat, acknowledged_iff, isSettled_iff hg]
      simp
    rw [List.mem_toFinset, List.mem_filter, decide_eq_true_eq, sd.mem_filterMap_offset?, pending,
      acked]
    constructor
    · rintro ⟨mem, m, hm, hid⟩
      exact ⟨mem, .inr ⟨bc.was_open, ⟨g, hg, mem⟩, m, hm, hid⟩⟩
    · rintro ⟨mem, settled | ⟨-, -, m, hm, hid⟩⟩
      · exact absurd mem settled.2
      · exact ⟨mem, m, hm, hid⟩

end Standing

/-- **The ledger is exact.** After any operations, the offsets of a stream lead from the written
name of each entry to its place and from nothing else; only existing entries were delivered, only
delivered ones are pending, and no delivery reaches past the end; and every entry is undelivered,
pending or acknowledged in every group, and only one of these. A group is drained where it is
missing or has acknowledged everything; the answer to an acknowledgement is the number of entries
that it moves from pending to acknowledged; creating a group that exists changes nothing; and an
operation that fails changes nothing. -/
theorem ledger_exact (claimIdle : Nat) (ops : List Operation) :
    let b := afterAll { claimIdle } ops
    (∀ stream s, b.stream? stream = some s → ∀ name offset,
      lookUp name s.offsets = some offset ↔
        (s.entries[offset]?).map (·.id.text) = some name) ∧
    (∀ stream group g, b.group? stream group = some g →
      g.next ≤ (b.entries stream).length ∧ (∀ d ∈ g.pending, d.offset < g.next) ∧
      (∀ now consumer max,
        ∀ offset ∈ (g.deliver b.claimIdle now consumer max (b.entries stream).length).1,
          offset < (b.entries stream).length) ∧
      ∀ offset < (b.entries stream).length,
        ∃! standing, Stands claimIdle ops stream group offset standing) ∧
    (∀ stream group, b.isDrained stream group = true ↔ b.group? stream group = none ∨
      ∀ offset < (b.entries stream).length, Acknowledged claimIdle ops stream group offset) ∧
    (∀ stream group names count b', b.ackNames stream group names = .ok (count, b') →
      ∃ moved : Finset Nat, moved.card = count ∧ ∀ offset, offset ∈ moved ↔
        Stands claimIdle ops stream group offset .pending ∧
        Stands claimIdle (ops ++ [.ack stream group names]) stream group offset .acknowledged) ∧
    (∀ stream group, (b.group? stream group).isSome → b.closed = false →
      b.createGroup stream group = .ok b) ∧
    ∀ op e b', (execute op).run b = (.error e, b') → b' = b := by
  intro b
  have sd : b.Sound := sound_afterAll claimIdle ops
  refine ⟨?_, ?_, ?_, ?_, ?_, ?_⟩
  · intro stream s hs
    exact (sd.named stream s hs).offsets
  · intro stream group g hg
    have gs := sd.groups stream group g hg
    refine ⟨gs.next_le, ?_, ?_, ?_⟩
    · intro d hd
      exact gs.pending_lt d.offset (List.mem_map_of_mem hd)
    · intro now consumer max offset h
      exact gs.delivered_lt h
    · intro offset _
      exact existsUnique_stands hg offset
  · intro stream group
    rw [sd.isDrained_iff]
    simp only [acknowledged_iff, b]
  · intro stream group names count b' h
    exact exists_moved h
  · intro stream group some op
    obtain ⟨g, hg⟩ := Option.isSome_iff_exists.1 some
    exact createGroup_of_exists op hg
  · intro op e b' h
    exact execute_of_error h

end Broker
end Whereabouts
