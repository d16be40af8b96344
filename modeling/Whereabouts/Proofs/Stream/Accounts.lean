import Mathlib.Algebra.BigOperators.Group.List.Basic
import Whereabouts.Proofs.Stream.History
import Whereabouts.Proofs.Stream.NoLoss
import Whereabouts.Proofs.Stream.Tally

/-!
# The counters account for the broker

Where only the workers of a group poll and acknowledge in it, and only they publish on their
outbound stream, the sums of their counters are what the broker has: the entries that were handed
over, those that were acknowledged, and those that were published.

* `Fleet.Ran`: what a fleet can come to, with all that was done to its broker.
* `Fleet.Balanced`: what the workers were answered is what the broker has done.
* `Worker.Does.balance`, `Fleet.Balanced.outside`: what is answered is what is done, in every step.
* `Fleet.Ran.balanced`: a whole run, by induction on its steps.
* `Fleet.accounts_balance`: the main statement.
-/

namespace Whereabouts

variable {α : Type}

namespace Broker

/-- How many entries were delivered to a group and are not pending any more. -/
def settledCount (b : Broker) (stream group : String) : Nat :=
  b.next stream group - b.pendingCount stream group

section Settled

variable {b b' : Broker} {stream group : String}

/-- The pending entries of a group are counted in its state. -/
lemma pendingCount_eq (b : Broker) (stream group : String) :
    b.pendingCount stream group = (b.groupState stream group).offsets.length := by
  unfold pendingCount groupState group? Group.offsets
  rw [List.length_map]
  cases (b.stream? stream).bind (·.group? group) <;> rfl

/-- The settled entries of a group are those that were delivered and are not pending. -/
lemma settledCount_eq (b : Broker) (stream group : String) : b.settledCount stream group =
    (b.groupState stream group).next - (b.groupState stream group).offsets.length := by
  rw [settledCount, next_eq, pendingCount_eq]

/-- The entries that are settled are as many as their count says. -/
lemma Sound.exists_settled (sd : b.Sound) (stream group : String) : ∃ settled : Finset Nat,
    (∀ offset, offset ∈ settled ↔ b.IsSettled stream group offset) ∧
      settled.card = b.settledCount stream group := by
  have gs := sd.groupState stream group
  refine ⟨Finset.range (b.groupState stream group).next \
    (b.groupState stream group).offsets.toFinset, ?_, ?_⟩
  · intro offset
    rw [Finset.mem_sdiff, Finset.mem_range, List.mem_toFinset, ← settled_getD]
    rfl
  · have sub : (b.groupState stream group).offsets.toFinset ⊆
        Finset.range (b.groupState stream group).next := by
      intro offset h
      exact Finset.mem_range.2 (gs.pending_lt offset (List.mem_toFinset.1 h))
    rw [Finset.card_sdiff_of_subset sub, Finset.card_range, List.toFinset_card_of_nodup gs.nodup,
      settledCount_eq]

/-- A poll settles nothing: what it gives for the first time is pending from then on. -/
lemma settledCount_poll {now max : Nat} {consumer : String} {messages : List Message}
    (h : b.poll now stream group consumer max = .ok (messages, b')) :
    b'.settledCount stream group = b.settledCount stream group := by
  obtain ⟨g, hg, -, bc⟩ := poll_spec h
  obtain ⟨again, fresh, -, -, -, next, offsets⟩ := Group.deliver_cases b.claimIdle now consumer g
    max (b.entries stream).length
  rw [settledCount_eq, settledCount_eq, bc.groupState_eq, if_pos ⟨rfl, rfl⟩, groupState_eq hg, next,
    offsets, List.length_append, List.length_range']
  omega

/-- An acknowledgement settles as many entries as it says. -/
lemma Sound.settledCount_ack (sd : b.Sound) {names : List String} {count : Nat}
    (h : b.ackNames stream group names = .ok (count, b')) :
    b'.settledCount stream group = b.settledCount stream group + count := by
  obtain ⟨g, hg, ec, bc⟩ := ackNames_spec h
  have gs := sd.groups stream group g hg
  have le := gs.length_offsets_le
  -- what was pending was named or stays pending
  have parts := List.length_eq_length_filter_add (l := g.offsets)
    fun offset => decide (offset ∈ names.filterMap (b.offset? stream))
  simp only [← decide_not] at parts
  rw [settledCount_eq, settledCount_eq, bc.groupState_eq, if_pos ⟨rfl, rfl⟩, groupState_eq hg,
    Group.next_acknowledgeAll, Group.offsets_acknowledgeAll, ec,
    Group.count_acknowledgeAll gs.nodup]
  omega

/-- As many entries are settled where the state of a group is the same. -/
lemma settledCount_of_groupState_eq
    (same : b'.groupState stream group = b.groupState stream group) :
    b'.settledCount stream group = b.settledCount stream group := by
  rw [settledCount_eq, settledCount_eq, same]

end Settled

end Broker

/-- Workers whose broker may be closed at any time and whose gateway may fail at any time; nobody
else polls or acknowledges in their group, or publishes on their outbound stream. -/
def Setting.exclusive [Scalar α] [Measured α] (codec : Codec α)
    (inbound outbound group : String) : Setting α :=
  { Setting.faulty codec inbound outbound group with
    outside := fun op =>
      ¬ op.Touches inbound group ∧ ∀ now payload, op ≠ .publish now outbound payload }

/-- Over the data of its own a fleet reports on every event. -/
lemma Setting.reports_exclusive [Scalar α] [Measured α] (codec : Codec α)
    (inbound outbound group : String) : (exclusive codec inbound outbound group).Reports :=
  reports_faulty codec inbound outbound group

namespace Fleet

/-- What the next call of a worker does to the broker. -/
def asks (k : Setting α) (enrich : List (Input α) → Except EnrichError (BatchResult α))
    (time : Instant) (i : Nat) (f : Fleet α) : List Operation :=
  match f.members[i]? with
  | some m =>
    let (m', _) := m.act k.codec (Broker.calls (m := Id) enrich (pure time)) f.broker
    (m'.current.drop m.current.length).filterMap (Exchange.operation time)
  | none => []

/-- What a fleet can come to, with all operations on its broker, the first one first. -/
inductive Ran (k : Setting α) (claimIdle : Nat) (configs : List WorkerConfig) :
    List Operation → Fleet α → Prop where
  | initial : Ran k claimIdle configs [] (initial k claimIdle configs)
  | start {ops f} (i) :
    Ran k claimIdle configs ops f →
    Ran k claimIdle configs ops (f.start i)
  | act {ops f enrich time} (i) :
    Ran k claimIdle configs ops f →
    k.enriches enrich →
    k.reads f.broker time →
    Ran k claimIdle configs (ops ++ f.asks k enrich time i) (f.act k enrich time i)
  | outside {ops f op} :
    Ran k claimIdle configs ops f →
    k.outside op →
    Ran k claimIdle configs (ops ++ [op]) (f.after op)

variable {k : Setting α} {claimIdle : Nat} {configs : List WorkerConfig} {ops : List Operation}
  {f f' : Fleet α}

/-- A run of a fleet leads to a reachable state. -/
lemma Ran.reachable (rn : Ran k claimIdle configs ops f) : Reachable k claimIdle configs f := by
  induction rn with
  | initial => exact .initial
  | start i _ ih => exact ih.step (.start i)
  | act i _ he hr ih => exact ih.step (.act i he hr)
  | outside _ ho ih => exact ih.step (.outside ho)

/-- Whatever a fleet comes to, it has come to by some operations on its broker. -/
lemma Reachable.exists_ran (rc : Reachable k claimIdle configs f) :
    ∃ ops, Ran k claimIdle configs ops f := by
  induction rc with
  | initial => exact ⟨[], .initial⟩
  | step _ st ih =>
    obtain ⟨ops, rn⟩ := ih
    cases st with
    | start i => exact ⟨ops, rn.start i⟩
    | act i he hr => exact ⟨_, rn.act i he hr⟩
    | outside ho => exact ⟨_, rn.outside ho⟩

/-- A worker makes a call, or it rests and nothing is done. -/
lemma act_cases (k : Setting α) (enrich : List (Input α) → Except EnrichError (BatchResult α))
    (time : Instant) (i : Nat) (f : Fleet α) :
    f.asks k enrich time i = [] ∧ f.act k enrich time i = f ∨ ∃ m x w b',
      f.members[i]? = some m ∧
      Worker.Does k.codec (Broker.calls (m := Id) enrich (pure time)) m.worker f.broker x w b' ∧
      f.asks k enrich time i = (x.operation time).toList ∧
      f.act k enrich time i = ⟨b', f.members.set i (m.say x w)⟩ := by
  unfold asks act
  cases hm : f.members[i]? with
  | none => exact .inl ⟨rfl, rfl⟩
  | some m =>
    obtain e | ⟨x, w, b', ds, e⟩ :=
      m.act_inv k.codec (Broker.calls (m := Id) enrich (pure time)) f.broker
    · obtain ⟨lt, same⟩ := List.getElem?_eq_some_iff.1 hm
      left
      dsimp only
      rw [e, List.drop_length, ← same, List.set_getElem_self lt]
      exact ⟨rfl, rfl⟩
    · refine .inr ⟨m, x, w, b', rfl, ds, ?_, ?_⟩
      · dsimp only
        rw [e, Member.say, List.drop_left]
        cases h : x.operation time <;> simp [h]
      · dsimp only
        rw [e]

end Fleet

namespace Worker

variable {k : Setting α} {enrich : List (Input α) → Except EnrichError (BatchResult α)}
  {time : Instant} {w w' : Worker α} {b b' : Broker} {x : Exchange α}

/-- An acknowledgement settles as many entries as it is answered, and leaves all entries. -/
lemma balance_ack {stream group outbound : String} {ids : List MessageId}
    {answer : Except BrokerError Nat} (sd : b.Sound)
    (h : (Broker.perform (m := Id) (·.ack stream group ids)).run b = (answer, b')) :
    b'.entries outbound = b.entries outbound ++ [] ∧
      b'.settledCount stream group = b.settledCount stream group +
        (Exchange.ack stream group ids answer : Exchange α).acked := by
  rw [List.append_nil]
  obtain ⟨count, rfl, ok⟩ | ⟨e, rfl, -, rfl⟩ := Broker.perform_inv h
  · obtain ⟨g, -, -, bc⟩ := Broker.ackNames_spec ok
    exact ⟨bc.entries outbound, sd.settledCount_ack ok⟩
  · exact ⟨rfl, rfl⟩

/-- What a worker is answered is what the broker has done for its group and on its outbound
stream. -/
lemma Does.balance
    (ds : Does k.codec (Broker.calls (m := Id) enrich (pure time)) w b x w' b')
    (sd : b.Sound) (fit : k.Fits w.config) :
    (b.history k.inbound k.group (x.operation time).toList).map (·.message) = x.polled ∧
      b'.entries k.outbound = b.entries k.outbound ++ x.published ∧
      b'.settledCount k.inbound k.group = b.settledCount k.inbound k.group + x.acked := by
  have inbound : w.config.inbound = k.inbound := congrArg WorkerConfig.inbound fit.symm
  have outbound : w.config.outbound = k.outbound := congrArg WorkerConfig.outbound fit.symm
  have group : w.config.group = k.group := congrArg WorkerConfig.group fit.symm
  have quiet : b.entries k.outbound = b.entries k.outbound ++ [] := (List.append_nil _).symm
  cases ds with
  | @poll answer _ _ h =>
    rw [inbound, group] at h ⊢
    have h' : (Broker.perform (m := Id) fun b => b.poll time.ticks k.inbound k.group
      w.config.consumer w.config.maxBatch).run b = (answer, b') := h
    obtain ⟨messages, rfl, ok⟩ | ⟨e, rfl, no, rfl⟩ := Broker.perform_inv h'
    · obtain ⟨g, -, -, bc⟩ := Broker.poll_spec ok
      refine ⟨?_, (bc.entries _).trans quiet, Broker.settledCount_poll ok⟩
      simp [Exchange.operation, Exchange.polled, Broker.history, Broker.handovers, ok,
        Function.comp_def]
    · refine ⟨?_, quiet, rfl⟩
      simp [Exchange.operation, Exchange.polled, Broker.history, Broker.handovers, no]
  | drop _ h =>
    rw [inbound, group] at h ⊢
    exact ⟨rfl, balance_ack sd h⟩
  | enrich _ h h' =>
    cases h
    cases h'
    exact ⟨rfl, quiet, rfl⟩
  | publish _ h =>
    rw [outbound] at h ⊢
    obtain ⟨id, rfl, ok⟩ | ⟨e, rfl, -, rfl⟩ := Broker.perform_inv h
    · have bc := Broker.publish_spec ok
      refine ⟨rfl, ?_, ?_⟩
      · rw [bc.entries, Broker.withEntry, if_pos rfl]
        rfl
      · apply Broker.settledCount_of_groupState_eq
        unfold Broker.groupState
        rw [bc.groups]
    · exact ⟨rfl, quiet, rfl⟩
  | ack _ h =>
    rw [inbound, group] at h ⊢
    exact ⟨rfl, balance_ack sd h⟩

end Worker

namespace Broker

/-- Operations are done one after the other. -/
lemma afterAll_append (b : Broker) (ops more : List Operation) :
    b.afterAll (ops ++ more) = (b.afterAll ops).afterAll more := List.foldl_append

/-- The history of more operations comes after that of the first ones. -/
lemma history_append (b : Broker) (stream group : String) (ops more : List Operation) :
    b.history stream group (ops ++ more) =
      b.history stream group ops ++ (b.afterAll ops).history stream group more := by
  induction ops generalizing b with
  | nil => rfl
  | cons op ops ih =>
    rw [List.cons_append, history, ih, history, List.append_assoc]
    rfl

end Broker

namespace Fleet

variable {k : Setting α} {claimIdle : Nat} {configs : List WorkerConfig} {ops : List Operation}
  {f : Fleet α}

/-- What the workers were answered is what the broker has done for their group and on their
outbound stream. -/
structure Balanced (k : Setting α) (claimIdle : Nat) (ops : List Operation) (f : Fleet α) :
    Prop where
  broker : f.broker = Broker.afterAll { claimIdle } ops
  polled : (f.members.flatMap Member.polled).Perm
    ((Broker.history { claimIdle } k.inbound k.group ops).map (·.message))
  published : (f.members.flatMap Member.published).Perm (f.broker.entries k.outbound)
  acked : (f.members.flatMap fun m => m.said.map Exchange.acked).sum =
    f.broker.settledCount k.inbound k.group

/-- The accounts balance before anything is done. -/
lemma Balanced.initial (k : Setting α) (claimIdle : Nat) (configs : List WorkerConfig) :
    Balanced k claimIdle [] (initial k claimIdle configs) := by
  have silent : ∀ {β : Type} (told : Member α → List β),
      (∀ config, told { worker := { config } } = []) →
      (Fleet.initial k claimIdle configs).members.flatMap told = [] := by
    intro β told none
    rw [List.flatMap_eq_nil_iff]
    intro m hm
    obtain ⟨config, -, rfl⟩ := List.mem_map.1 hm
    exact none (k.configure config)
  constructor
  · rfl
  · rw [silent Member.polled fun _ => rfl]
    exact .nil
  · rw [silent Member.published fun _ => rfl]
    exact .nil
  · rw [silent _ fun _ => rfl]
    rfl

/-- A worker says more, and the broker does as it was answered. -/
lemma Balanced.replace (bl : Balanced k claimIdle ops f) {i : Nat} {m m' : Member α}
    {more : List (Exchange α)} {done : List Operation} (hm : f.members[i]? = some m)
    (said : m'.said = m.said ++ more)
    (polled : (f.broker.history k.inbound k.group done).map (·.message) =
      more.flatMap Exchange.polled)
    (published : (f.broker.afterAll done).entries k.outbound =
      f.broker.entries k.outbound ++ more.flatMap Exchange.published)
    (acked : (f.broker.afterAll done).settledCount k.inbound k.group =
      f.broker.settledCount k.inbound k.group + (more.map Exchange.acked).sum) :
    Balanced k claimIdle (ops ++ done) ⟨f.broker.afterAll done, f.members.set i m'⟩ := by
  constructor
  · rw [Broker.afterAll_append, bl.broker]
  · have told : m'.polled = m.polled ++ more.flatMap Exchange.polled := by
      rw [Member.polled, said, List.flatMap_append]
      rfl
    rw [Broker.history_append, List.map_append, ← bl.broker, polled]
    exact (flatMap_set_perm hm told).trans (bl.polled.append_right _)
  · have told : m'.published = m.published ++ more.flatMap Exchange.published := by
      rw [Member.published, said, List.flatMap_append]
      rfl
    rw [published]
    exact (flatMap_set_perm hm told).trans (bl.published.append_right _)
  · have told : m'.said.map Exchange.acked =
        m.said.map Exchange.acked ++ more.map Exchange.acked := by
      rw [said, List.map_append]
    have same := flatMap_set_perm (f := fun m => m.said.map Exchange.acked) hm told
    rw [acked, same.sum_eq, List.sum_append, bl.acked]

/-- Starting a worker anew keeps the accounts balanced. -/
lemma Balanced.start (bl : Balanced k claimIdle ops f) (i : Nat) :
    Balanced k claimIdle ops (f.start i) := by
  unfold Fleet.start
  split
  next m hm =>
    split
    next outcome ph =>
      have next : Balanced k claimIdle (ops ++ []) ⟨f.broker.afterAll [], _⟩ :=
        bl.replace hm (m.said_start.trans (List.append_nil _).symm) rfl (List.append_nil _).symm rfl
      rw [List.append_nil] at next
      exact next
    next => exact bl
  next => exact bl

/-- What is done from outside is none of the group's business, and publishes nothing on the outbound
stream. -/
lemma Balanced.outside (bl : Balanced k claimIdle ops f) {op : Operation}
    (own : ¬ op.Touches k.inbound k.group)
    (alone : ∀ now payload, op ≠ .publish now k.outbound payload) :
    Balanced k claimIdle (ops ++ [op]) (f.after op) where
  broker := by
    rw [Broker.afterAll_append, ← bl.broker]
    rfl
  polled := by
    rw [Broker.history_concat, Broker.handovers_of_not_touches own, List.append_nil]
    exact bl.polled
  published := by
    show (f.members.flatMap Member.published).Perm ((f.broker.after op).entries k.outbound)
    rw [Broker.entries_after alone]
    exact bl.published
  acked := by
    show _ = (f.broker.after op).settledCount k.inbound k.group
    rw [Broker.settledCount_of_groupState_eq (Broker.groupState_after own)]
    exact bl.acked

/-- Every call keeps the balance. -/
lemma Balanced.act (bl : Balanced k claimIdle ops f) (rc : Reachable k claimIdle configs f)
    (enrich : List (Input α) → Except EnrichError (BatchResult α)) (time : Instant) (i : Nat) :
    Balanced k claimIdle (ops ++ f.asks k enrich time i) (f.act k enrich time i) := by
  obtain ⟨none, same⟩ | ⟨m, x, w, b', hm, ds, asks, next⟩ := f.act_cases k enrich time i
  · rw [none, same, List.append_nil]
    exact bl
  · obtain ⟨polled, published, acked⟩ := ds.balance rc.sound (rc.fits m (List.mem_of_getElem? hm))
    have broker : b' = f.broker.afterAll (x.operation time).toList := by
      rw [ds.broker_eq]
      cases x.operation time <;> rfl
    rw [asks, next, broker]
    rw [broker] at published acked
    refine bl.replace hm (m.said_say x w) ?_ ?_ ?_
    · rw [polled, List.flatMap_singleton]
    · rw [published, List.flatMap_singleton]
    · rw [acked, List.map_singleton, List.sum_singleton]

/-- Where only the workers use their group and their outbound stream, the balance is kept. -/
lemma Ran.balanced (rn : Ran k claimIdle configs ops f)
    (own : ∀ op, k.outside op → ¬ op.Touches k.inbound k.group)
    (alone : ∀ op, k.outside op → ∀ now payload, op ≠ .publish now k.outbound payload) :
    Balanced k claimIdle ops f := by
  induction rn with
  | initial => exact .initial k claimIdle configs
  | start i _ bl => exact bl.start i
  | act i rn _ _ bl => exact bl.act rn.reachable _ _ i
  | outside _ ho bl => exact bl.outside (own _ ho) (alone _ ho)

/-- The counters of every worker say what it has said. -/
lemma Reachable.tallies (rc : Reachable k claimIdle configs f) :
    ∀ m ∈ f.members, m.Tallies k.codec := by
  refine rc.forall_members (P := fun _ m => m.Tallies k.codec) ?_ ?_ ?_ ?_
  · exact fun config _ => .fresh k.codec config
  · exact fun _ tl => tl
  · exact fun ph tl => tl.start ph
  · exact fun _ ds tl => tl.say ds

/-- The counters of all workers together. -/
def totals (f : Fleet α) : WorkerStats :=
  (f.members.map (·.worker.stats)).foldl WorkerStats.accumulate {}

/-- A counter of several workers together is the sum of their counters. -/
lemma foldl_accumulate {counter : WorkerStats → Nat}
    (adds : ∀ total stats, counter (total.accumulate stats) = counter total + counter stats)
    (stats : List WorkerStats) (total : WorkerStats) :
    counter (stats.foldl WorkerStats.accumulate total) =
      counter total + (stats.map counter).sum := by
  induction stats generalizing total with
  | nil => rfl
  | cons first rest ih =>
    rw [List.foldl_cons, ih, adds, List.map_cons, List.sum_cons, Nat.add_assoc]

/-- A counter of all workers together is the sum of what each of them has counted. -/
lemma totals_eq {counter : WorkerStats → Nat}
    (adds : ∀ total stats, counter (total.accumulate stats) = counter total + counter stats)
    (zero : counter {} = 0) {told : Member α → Nat}
    (each : ∀ m ∈ f.members, counter m.worker.stats = told m) :
    counter f.totals = (f.members.map told).sum := by
  rw [totals, foldl_accumulate adds, zero, Nat.zero_add, List.map_map]
  exact congrArg List.sum (List.map_congr_left each)

/-- **The counters account for the broker.** However the calls of the workers of a group are
interleaved, whatever is delivered again, whether the broker is closed and whatever the gateway
does: when all workers rest, they have acknowledged together what was delivered and is not pending
any more, that is each entry that was ever acknowledged, once; they have published what is on their
outbound stream; and they have polled what the broker has handed over to their group. What each of
them has polled was malformed or held an event; it has published a record, or failed to, for each
event of the batches that were enriched; and it has failed at most as often as it has iterated. -/
theorem accounts_balance [Scalar α] [Measured α] (codec : Codec α)
    (inbound outbound group : String) (claimIdle : Nat) (configs : List WorkerConfig)
    {ops : List Operation} {f : Fleet α}
    (rn : Ran (.exclusive codec inbound outbound group) claimIdle configs ops f)
    (rest : ∀ m ∈ f.members, ∃ outcome, m.worker.phase = .resting outcome) :
    f.broker = Broker.afterAll { claimIdle } ops ∧
    f.totals.acked + f.broker.pendingCount inbound group = f.broker.next inbound group ∧
    (∃ acknowledged : Finset Nat, f.totals.acked = acknowledged.card ∧ ∀ offset,
      offset ∈ acknowledged ↔ Broker.Acknowledged claimIdle ops inbound group offset) ∧
    f.totals.published = (f.broker.entries outbound).length ∧
    f.totals.polled = (Broker.history { claimIdle } inbound group ops).length ∧
    ∀ m ∈ f.members,
      m.worker.stats.polled = m.worker.stats.malformed + (codec.contents m.polled).length ∧
      m.worker.stats.published + m.worker.stats.publishFailures =
        (m.sessions.flatMap codec.enriched).length ∧
      m.worker.stats.batchFailures ≤ m.worker.stats.iterations := by
  have bl := rn.balanced (fun op ho => ho.1) fun op ho => ho.2
  have sd := rn.reachable.sound
  have tl := rn.reachable.tallies
  have tells := rn.reachable.tells (Setting.reports_exclusive codec inbound outbound group)
  have acked : f.totals.acked = f.broker.settledCount inbound group := by
    have sum := bl.acked
    rw [List.flatMap, List.sum_flatten, List.map_map] at sum
    exact (totals_eq (fun _ _ => rfl) rfl fun m hm => (tl m hm).acked).trans sum
  refine ⟨bl.broker, ?_, ?_, ?_, ?_, ?_⟩
  · have gs := (sd.groupState inbound group).length_offsets_le
    rw [acked, Broker.settledCount_eq, Broker.pendingCount_eq, Broker.next_eq]
    exact Nat.sub_add_cancel gs
  · obtain ⟨settled, mem, card⟩ := sd.exists_settled inbound group
    refine ⟨settled, acked.trans card.symm, ?_⟩
    intro offset
    rw [mem, bl.broker]
    exact (Broker.acknowledged_iff claimIdle ops inbound group offset).symm
  · rw [totals_eq (fun _ _ => rfl) rfl fun m hm => (tl m hm).published, ← List.length_flatMap]
    exact bl.published.length_eq
  · rw [totals_eq (fun _ _ => rfl) rfl fun m hm => (tl m hm).polled, ← List.length_flatMap]
    exact bl.polled.length_eq.trans (List.length_map _)
  · intro m hm
    obtain ⟨outcome, ph⟩ := rest m hm
    have counted := tl m hm
    refine ⟨?_, ?_, ?_⟩
    · rw [counted.polled, counted.malformed]
      exact (codec.length_malformed_add m.polled).symm
    · exact counted.records.trans ((tells m hm).records ph)
    · exact Nat.le_of_add_right_le counted.failures

section Sample

/-- Two workers and one event. -/
def oneEvent : Fleet Float :=
  initial (.exclusive propertyOnly "in" "out" "g") 30 twoWorkers
    |>.after (.publish 1 "in" "home") |>.after (.createGroup "in" "g") |>.start 0 |>.start 1

/-- A worker makes a call at some time. -/
def callAt (f : Fleet Float) (call : Nat × Nat) : Fleet Float :=
  act (.exclusive propertyOnly "in" "out" "g") withoutMap ⟨1, call.1, "now"⟩ call.2 f

/-- The second worker is given the event again while the first one still holds it, and both complete
their iterations. -/
def afterRedelivery : Fleet Float :=
  [(0, 0), (50, 1), (50, 1), (50, 1), (50, 1), (50, 0), (50, 0), (50, 0)].foldl callAt oneEvent

/-- Calls of workers that follow one another are part of a run. -/
lemma exists_ran_calls {f : Fleet Float} {ops : List Operation}
    (rn : Ran (.exclusive propertyOnly "in" "out" "g") 30 twoWorkers ops f)
    (calls : List (Nat × Nat)) : ∃ ops,
      Ran (.exclusive propertyOnly "in" "out" "g") 30 twoWorkers ops (calls.foldl callAt f) := by
  induction calls generalizing ops f with
  | nil => exact ⟨ops, rn⟩
  | cons call calls ih => exact ih (rn.act call.2 ⟨Unit, _, (), rfl⟩ trivial)

/-- The state after a redelivery is reached by a run. -/
lemma exists_ran_afterRedelivery : ∃ ops,
    Ran (.exclusive propertyOnly "in" "out" "g") 30 twoWorkers ops afterRedelivery := by
  refine exists_ran_calls (.start 1 (.start 0 (.outside (.outside .initial ?_) ?_))) _
  · exact ⟨id, by simp⟩
  · exact ⟨id, by simp⟩

/-- Two deliveries of one event make two records, and one acknowledgement that counts. -/
theorem redelivery_balances : ∃ ops,
    Ran (.exclusive propertyOnly "in" "out" "g") 30 twoWorkers ops afterRedelivery ∧
    (∀ m ∈ afterRedelivery.members, ∃ outcome, m.worker.phase = .resting outcome) ∧
    afterRedelivery.totals = ⟨2, 2, 0, 2, 0, 1, 0⟩ ∧
    (Broker.history { claimIdle := 30 } "in" "g" ops).length = 2 := by
  obtain ⟨ops, rn⟩ := exists_ran_afterRedelivery
  have none : ∀ m ∈ afterRedelivery.members, m.worker.underWay = 0 := by decide
  have rest := fun m hm => Worker.underWay_eq_zero_iff.1 (none m hm)
  obtain ⟨-, -, -, -, polled, -⟩ :=
    accounts_balance propertyOnly "in" "out" "g" 30 twoWorkers rn rest
  exact ⟨ops, rn, rest, rfl, polled.symm⟩

end Sample

end Fleet

end Whereabouts
