import Whereabouts.Geometry.Binary64
import Whereabouts.Geometry.Ellipsoid.Area
import Whereabouts.Proofs.Stream.Delivery
import Whereabouts.Proofs.Stream.Faithful
import Whereabouts.Stream.Worker

/-!
# Every event is published exactly once

Workers share a broker that stays open and where nothing is pending for long, and a gateway that
answers from memory. When their group is drained, the outbound stream has one record for each event
of the inbound stream, the one that enriching this event alone gives.

* `Fleet.Orderly`: what the workers have been given, have published and still hold.
* `Fleet.Orderly.call`: every call keeps this in order.
* `Fleet.exactly_once`: the statement.
-/

namespace Whereabouts

variable {α : Type}

namespace Member

/-- All that a worker has said. -/
def said (m : Member α) : List (Exchange α) := m.sessions.flatten

/-- The messages that a worker was given. -/
def polled (m : Member α) : List Message := m.said.flatMap Exchange.polled

/-- The entries that a worker has published. -/
def published (m : Member α) : List Message := m.said.flatMap Exchange.published

/-- A worker has said what it said in earlier sessions and what it says in this one. -/
lemma said_eq (m : Member α) : m.said = m.past.flatten ++ m.current := by
  simp [said, sessions]

/-- The messages of this session are among all that a worker was given. -/
lemma polled_current (m : Member α) :
    (m.current.flatMap Exchange.polled).Sublist m.polled := by
  rw [polled, said_eq, List.flatMap_append]
  exact List.sublist_append_right _ _

/-- Starting anew says nothing. -/
lemma said_start (m : Member α) : m.start.said = m.said := by
  simp [said, sessions, start]

/-- What is said comes after all that was said before. -/
lemma said_say (m : Member α) (x : Exchange α) (w : Worker α) :
    (m.say x w).said = m.said ++ [x] := by
  simp [said, sessions, say]

end Member

/-- The names of the messages that are still to be acknowledged in a phase. -/
def Phase.held : Phase α → List MessageId
  | .dropping batch => batch.malformed ++ batch.ids
  | .enriching batch | .publishing batch _ _ _ _ | .acking batch _ => batch.ids
  | .resting _ | .polling => []

namespace Worker

variable (w : Worker α) (batch : MessageBatch α) (flags : List Bool)

/-- Going on to the events holds no more than their messages. -/
lemma held_toEvents : (w.toEvents batch).phase.held ⊆ batch.ids := by
  unfold toEvents
  split
  · exact List.nil_subset _
  · exact List.Subset.refl _

/-- Going on to the acknowledgements holds no more than the messages of the batch. -/
lemma held_toAcks : (w.toAcks batch flags).phase.held ⊆ batch.ids := by
  unfold toAcks
  split
  · exact List.nil_subset _
  · exact List.Subset.refl _

/-- Going on to the records holds no more than the messages of the batch. -/
lemma held_toRecords (time : String) (items : List (Item α)) :
    (w.toRecords batch time items flags).phase.held ⊆ batch.ids := by
  cases items with
  | nil => exact held_toAcks w batch flags
  | cons => exact List.Subset.refl _

/-- Nothing but what was given is held after a poll. -/
lemma held_afterPoll {codec : Codec α} {messages : List Message} {id : MessageId}
    (h : id ∈ (w.afterPoll codec (.ok messages)).phase.held) :
    id ∈ codec.rejects messages ∨ id ∈ (codec.events messages).map (·.1) := by
  cases messages with
  | nil => cases h
  | cons m rest =>
    unfold afterPoll at h
    dsimp only at h
    split at h
    next =>
      have h' := held_toEvents _ _ h
      rw [MessageBatch.ids_ofMessages] at h'
      exact .inr h'
    next =>
      have h' := List.mem_append.1 h
      rw [MessageBatch.malformed_ofMessages, MessageBatch.ids_ofMessages] at h'
      exact h'

end Worker

/-- Rejects and events have the names of the messages they were read from. -/
lemma Codec.name_of_mem (codec : Codec α) {messages : List Message} {id : MessageId}
    (h : id ∈ codec.rejects messages ∨ id ∈ (codec.events messages).map (·.1)) :
    ∃ m ∈ messages, m.id = id := by
  obtain h | h := h
  · obtain ⟨m, hm, -, e⟩ := (codec.mem_rejects messages).1 h
    exact ⟨m, hm, e⟩
  · obtain ⟨⟨id, event⟩, hev, rfl⟩ := List.mem_map.1 h
    obtain ⟨m, hm, -, e⟩ := (codec.mem_events messages).1 hev
    exact ⟨m, hm, e⟩

section Trace

variable [Scalar α] {codec : Codec α} {config : WorkerConfig} {said : List (Exchange α)}

/-- What is held was given in this iteration. -/
lemma Trace.held {phase : Phase α} (tr : Trace codec config said phase) {id : MessageId}
    (h : id ∈ phase.held) : ∃ m ∈ said.flatMap Exchange.polled, m.id = id := by
  cases tr with
  | resting => cases h
  | polling => cases h
  | dropping =>
    have h' := List.mem_append.1 h
    rw [MessageBatch.malformed_ofMessages, MessageBatch.ids_ofMessages] at h'
    obtain ⟨m, hm, e⟩ := codec.name_of_mem h'
    exact ⟨m, List.mem_append_left _ hm, e⟩
  | enriching _ rd =>
    rw [Phase.held, MessageBatch.ids_ofMessages] at h
    rw [rd.polled_published.1]
    exact codec.name_of_mem (.inr h)
  | publishing _ en =>
    rw [Phase.held, MessageBatch.ids_ofMessages] at h
    rw [List.flatMap_append, en.polled_published.1, polled_publishes, List.append_nil]
    exact codec.name_of_mem (.inr h)
  | acking _ en =>
    rw [Phase.held, MessageBatch.ids_ofMessages] at h
    rw [List.flatMap_append, en.polled_published.1, polled_publishes, List.append_nil]
    exact codec.name_of_mem (.inr h)

/-- A worker that holds nothing has completed its iteration, or has not said anything in it. -/
lemma Trace.completed {phase : Phase α} (tr : Trace codec config said phase)
    (none : ∀ id, id ∉ phase.held) :
    said = [] ∨ ∃ outcome, Transcript codec config said outcome := by
  have nil := List.eq_nil_iff_forall_not_mem.2 none
  cases tr with
  | @resting _ outcome tr => exact .inr ⟨outcome, tr⟩
  | polling => exact .inl rfl
  | dropping ne =>
    rw [Phase.held, MessageBatch.malformed_ofMessages] at nil
    exact absurd (List.append_eq_nil_iff.1 nil).1 ne
  | enriching ne =>
    rw [Phase.held, MessageBatch.ids_ofMessages] at nil
    exact absurd (List.map_eq_nil_iff.1 nil) ne
  | publishing _ en =>
    rw [Phase.held, MessageBatch.ids_ofMessages] at nil
    cases en with
    | mk ne => exact absurd (List.map_eq_nil_iff.1 nil) ne
  | acking _ en =>
    rw [Phase.held, MessageBatch.ids_ofMessages] at nil
    cases en with
    | mk ne => exact absurd (List.map_eq_nil_iff.1 nil) ne

/-- Where messages are to be dropped, there are some. -/
lemma Trace.malformed_ne_nil {batch : MessageBatch α}
    (tr : Trace codec config said (.dropping batch)) : batch.malformed ≠ [] := by
  obtain ⟨messages, rfl, ne, -⟩ := tr.dropping_inv
  rw [MessageBatch.malformed_ofMessages]
  exact ne

/-- Where messages are to be acknowledged after publishing, there are some. -/
lemma Trace.select_ne_nil {batch : MessageBatch α} {flags : List Bool}
    (tr : Trace codec config said (.acking batch flags)) :
    config.ackPolicy.select batch.ids flags ≠ [] := by
  obtain ⟨messages, items, log, answers, time, rfl, rfl, ne, -⟩ := tr.acking_inv
  rw [AckPolicy.select_eq, MessageBatch.ids_ofMessages]
  exact ne

end Trace

/-- Replacing an item by one that gives more. -/
lemma flatMap_set_perm {β γ : Type} {f : β → List γ} {l : List β} {i : Nat} {a a' : β}
    {new : List γ} (h : l[i]? = some a) (e : f a' = f a ++ new) :
    ((l.set i a').flatMap f).Perm (l.flatMap f ++ new) := by
  induction l generalizing i with
  | nil => cases h
  | cons b l ih =>
    cases i with
    | zero =>
      cases h
      rw [List.set_cons_zero, List.flatMap_cons, List.flatMap_cons, e, List.append_assoc,
        List.append_assoc]
      exact List.perm_append_comm.append_left _
    | succ i =>
      rw [List.set_cons_succ, List.flatMap_cons, List.flatMap_cons, List.append_assoc]
      exact (ih h).append_left _

/-- A list in which an item was set holds this item and the others. -/
lemma mem_set_cases {β : Type} {l : List β} {i : Nat} {a b : β} (h : b ∈ l.set i a) :
    b = a ∨ ∃ j, j ≠ i ∧ l[j]? = some b := by
  obtain ⟨j, hj⟩ := List.mem_iff_getElem?.1 h
  by_cases e : i = j
  · subst e
    rw [List.getElem?_set_self' ] at hj
    obtain ⟨_, -, rfl⟩ := Option.map_eq_some_iff.1 hj
    exact .inl rfl
  · rw [List.getElem?_set_ne e] at hj
    exact .inr ⟨j, Ne.symm e, hj⟩

/-- Workers over a gateway that answers from memory and a broker that stays open; nothing is pending
for long, and nobody else uses their group or the outbound stream. -/
def Setting.calm [Scalar α] [Measured α] (codec : Codec α) (inbound outbound group : String)
    (e : Enricher Id α) : Setting α where
  codec
  inbound
  outbound
  group
  enriches enrich := enrich = fun inputs => (e.enrich inputs).run
  outside op := op ≠ .close ∧ ¬ op.Touches inbound group ∧
    ∀ now payload, op ≠ .publish now outbound payload
  reads b time := ∀ g, b.group? inbound group = some g →
    ∀ d ∈ g.pending, Group.isIdle b.claimIdle time.ticks d = false

namespace Fleet

variable {k : Setting α} {itemOf : Input α → Item α} {f : Fleet α}

/-- What the workers have been given is what was delivered to their group, what they have published
is what is on the outbound stream, and what they hold is pending. -/
structure Orderly (k : Setting α) (itemOf : Input α → Item α) (f : Fleet α) : Prop where
  is_open : f.broker.closed = false
  succeeds : ∀ m ∈ f.members, ∀ x ∈ m.said, x.Succeeds itemOf
  polled : (f.members.flatMap Member.polled).Perm (f.broker.delivered k.inbound k.group)
  polled_order : ∀ m ∈ f.members, m.polled.Sublist (f.broker.delivered k.inbound k.group)
  published : (f.members.flatMap Member.published).Perm (f.broker.entries k.outbound)
  published_order : ∀ m ∈ f.members, m.published.Sublist (f.broker.entries k.outbound)
  held : ∀ m ∈ f.members, ∀ id ∈ m.worker.phase.held,
    f.broker.HasPending k.inbound k.group id

/-- A worker goes on in order where what it was given is delivered, what it has published is on the
outbound stream, and what it and the others hold is pending. -/
lemma Orderly.replace (od : Orderly k itemOf f) {i : Nat} {m m' : Member α} {b' : Broker}
    {more : List (Exchange α)} (hm : f.members[i]? = some m) (said : m'.said = m.said ++ more)
    (is_open : b'.closed = false) (succeeds : ∀ x ∈ more, x.Succeeds itemOf)
    (delivered : b'.delivered k.inbound k.group =
      f.broker.delivered k.inbound k.group ++ more.flatMap Exchange.polled)
    (entries : b'.entries k.outbound =
      f.broker.entries k.outbound ++ more.flatMap Exchange.published)
    (own : ∀ id ∈ m'.worker.phase.held, b'.HasPending k.inbound k.group id)
    (others : ∀ j, j ≠ i → ∀ m1, f.members[j]? = some m1 → ∀ id ∈ m1.worker.phase.held,
      b'.HasPending k.inbound k.group id) :
    Orderly k itemOf ⟨b', f.members.set i m'⟩ := by
  have mem := List.mem_of_getElem? hm
  have polled : m'.polled = m.polled ++ more.flatMap Exchange.polled := by
    rw [Member.polled, said, List.flatMap_append]
    rfl
  have published : m'.published = m.published ++ more.flatMap Exchange.published := by
    rw [Member.published, said, List.flatMap_append]
    rfl
  constructor
  case is_open => exact is_open
  case succeeds =>
    intro m1 h1 x hx
    obtain old | rfl := List.mem_or_eq_of_mem_set h1
    · exact od.succeeds m1 old x hx
    · rw [said, List.mem_append] at hx
      exact hx.elim (od.succeeds m mem x) (succeeds x)
  case polled =>
    rw [delivered]
    exact (flatMap_set_perm hm polled).trans (od.polled.append_right _)
  case polled_order =>
    intro m1 h1
    rw [delivered]
    obtain old | rfl := List.mem_or_eq_of_mem_set h1
    · exact (od.polled_order m1 old).trans (List.sublist_append_left _ _)
    · rw [polled]
      exact (od.polled_order m mem).append (List.Sublist.refl _)
  case published =>
    rw [entries]
    exact (flatMap_set_perm hm published).trans (od.published.append_right _)
  case published_order =>
    intro m1 h1
    rw [entries]
    obtain old | rfl := List.mem_or_eq_of_mem_set h1
    · exact (od.published_order m1 old).trans (List.sublist_append_left _ _)
    · rw [published]
      exact (od.published_order m mem).append (List.Sublist.refl _)
  case held =>
    intro m1 h1
    obtain rfl | ⟨j, ne, hj⟩ := mem_set_cases h1
    · exact own
    · exact others j ne m1 hj

section Held

variable [Scalar α] {m m' : Member α} {id : MessageId}

/-- What a worker holds is what it was given. -/
lemma polled_of_held (tl : m.Tells k.codec) (h : id ∈ m.worker.phase.held) :
    ∃ message ∈ m.polled, message.id = id := by
  obtain ⟨-, outcome, ph⟩ | tr := tl.current
  · rw [ph] at h
    cases h
  · obtain ⟨message, hm, e⟩ := tr.held h
    exact ⟨message, m.polled_current.subset hm, e⟩

/-- No two workers hold the same entry. -/
lemma Orderly.held_disjoint (od : Orderly k itemOf f) (sd : f.broker.Sound)
    (tl : ∀ m ∈ f.members, m.Tells k.codec) {i j : Nat} (hi : f.members[i]? = some m)
    (hj : f.members[j]? = some m') (ne : j ≠ i) (h : id ∈ m.worker.phase.held) :
    id ∉ m'.worker.phase.held := by
  intro h'
  have mem := List.mem_of_getElem? hi
  have mem' := List.mem_of_getElem? hj
  obtain ⟨message, hm, rfl⟩ := polled_of_held (tl m mem) h
  obtain ⟨message', hm', e⟩ := polled_of_held (tl m' mem') h'
  -- both were given an entry of this name, but there is only one, and it was given once
  have there := List.mem_of_mem_take ((od.polled_order m mem).subset hm)
  have there' := List.mem_of_mem_take ((od.polled_order m' mem').subset hm')
  cases sd.eq_of_id there' there e
  have nd : (f.broker.entries k.inbound).Nodup := (sd.nodup_ids k.inbound).of_map
  have nd' : (f.members.flatMap Member.polled).Nodup :=
    od.polled.nodup_iff.2 (nd.sublist (List.take_sublist _ _))
  have pw := List.pairwise_iff_getElem.1 (List.nodup_flatMap.1 nd').2
  obtain ⟨lt, rfl⟩ := List.getElem?_eq_some_iff.1 hi
  obtain ⟨lt', rfl⟩ := List.getElem?_eq_some_iff.1 hj
  obtain le | le := Nat.lt_or_gt_of_ne ne
  · exact pw j i lt' lt le hm' hm
  · exact pw i j lt lt' le hm hm'

/-- No event of a batch is dropped with the messages that hold none. -/
lemma Orderly.event_not_dropped (od : Orderly k itemOf f) (sd : f.broker.Sound)
    (mem : m ∈ f.members) {config : WorkerConfig} {batch : MessageBatch α}
    (tr : Trace k.codec config m.current (.dropping batch)) (h : id ∈ batch.ids) :
    id ∉ batch.malformed := by
  obtain ⟨messages, rfl, -, said⟩ := tr.dropping_inv
  have read : m.current.flatMap Exchange.polled = messages := by
    rw [said]
    exact List.append_nil _
  -- what was given in this iteration is part of the stream, where all names are distinct
  have part : messages.Sublist (f.broker.entries k.inbound) := by
    rw [← read]
    exact (m.polled_current.trans (od.polled_order m mem)).trans (List.take_sublist _ _)
  have nd := (sd.nodup_ids k.inbound).sublist (part.map _)
  rw [MessageBatch.ids_ofMessages] at h
  rw [MessageBatch.malformed_ofMessages]
  obtain ⟨⟨id, event⟩, hev, rfl⟩ := List.mem_map.1 h
  exact k.codec.notMem_rejects messages nd hev

end Held

section Call

variable {m : Member α} {i : Nat} {x : Exchange α} {w : Worker α} {b' : Broker}

/-- A call that delivers nothing and acknowledges nothing leaves everything in order. -/
lemma Orderly.call_quiet (od : Orderly k itemOf f) (sd : f.broker.Sound)
    (hm : f.members[i]? = some m) (gr : f.broker.Grows b') (is_open : b'.closed = false)
    (keep : b'.next k.inbound k.group = f.broker.next k.inbound k.group ∧
      ∀ offset, f.broker.IsPending k.inbound k.group offset →
        b'.IsPending k.inbound k.group offset)
    (succeeds : x.Succeeds itemOf) (unread : x.polled = [])
    (entries : b'.entries k.outbound = f.broker.entries k.outbound ++ x.published)
    (sub : w.phase.held ⊆ m.worker.phase.held) :
    Orderly k itemOf ⟨b', f.members.set i (m.say x w)⟩ := by
  apply od.replace hm (m.said_say x w) is_open
  · intro y hy
    rw [List.mem_singleton.1 hy]
    exact succeeds
  · rw [List.flatMap_singleton, unread, List.append_nil]
    exact gr.delivered_eq sd keep.1
  · rw [List.flatMap_singleton]
    exact entries
  · intro id h
    exact (od.held m (List.mem_of_getElem? hm) id (sub h)).mono gr keep.2
  · intro j _ m1 h1 id h
    exact (od.held m1 (List.mem_of_getElem? h1) id h).mono gr keep.2

/-- A poll gives the next entries, which are held from then on. -/
lemma Orderly.call_poll (od : Orderly k itemOf f) (hm : f.members[i]? = some m)
    {now max : Nat} {consumer : String} {messages : List Message}
    (ok : f.broker.poll now k.inbound k.group consumer max = .ok (messages, b'))
    (calm : ∀ g, f.broker.group? k.inbound k.group = some g →
      ∀ d ∈ g.pending, Group.isIdle f.broker.claimIdle now d = false)
    (own : ∀ id ∈ w.phase.held, ∃ message ∈ messages, message.id = id) :
    Orderly k itemOf ⟨b', f.members.set i
      (m.say (.poll k.inbound k.group consumer max (.ok messages)) w)⟩ := by
  obtain ⟨g, -, -, bc⟩ := Broker.poll_spec ok
  apply od.replace hm (m.said_say _ w) bc.is_open
  · intro y hy
    rw [List.mem_singleton.1 hy]
    trivial
  · rw [List.flatMap_singleton]
    exact Broker.poll_delivered ok calm
  · rw [bc.entries, List.flatMap_singleton]
    exact (List.append_nil _).symm
  · intro id h
    obtain ⟨message, hmem, e⟩ := own id h
    obtain ⟨offset, there, pd⟩ := Broker.poll_pending ok hmem
    exact ⟨offset, message, there, e, pd⟩
  · intro j _ m1 h1 id h
    exact (od.held m1 (List.mem_of_getElem? h1) id h).mono bc.grows
      fun offset pd => Broker.isPending_poll ok pd

/-- The broker is open, so it takes every record. -/
lemma Orderly.publish_answered (od : Orderly k itemOf f) {now : Int} {stream payload : String}
    {answer : Except BrokerError MessageId}
    (h : (Broker.perform (m := Id) (·.publish now stream payload)).run f.broker = (answer, b')) :
    ∃ name, answer = .ok name ∧ f.broker.publish now stream payload = .ok (name, b') := by
  obtain ok | ⟨e, -, no, -⟩ := Broker.perform_inv h
  · exact ok
  · obtain ⟨name, b1, ok⟩ := Broker.publish_of_open od.is_open now stream payload
    rw [ok] at no
    cases no

/-- The broker is open and what is held is pending, so it takes every acknowledgement of what is
held. -/
lemma Orderly.ack_answered (od : Orderly k itemOf f) (hm : f.members[i]? = some m)
    {ids : List MessageId} {answer : Except BrokerError Nat} (ne : ids ≠ [])
    (sub : ids ⊆ m.worker.phase.held)
    (h : (Broker.perform (m := Id) (·.ack k.inbound k.group ids)).run f.broker = (answer, b')) :
    ∃ count, answer = .ok count ∧ f.broker.ack k.inbound k.group ids = .ok (count, b') := by
  obtain ⟨id, hid⟩ := List.exists_mem_of_ne_nil _ ne
  obtain ⟨_, _, -, -, g, hg, -⟩ := od.held m (List.mem_of_getElem? hm) id (sub hid)
  obtain ok | ⟨e, -, no, -⟩ := Broker.perform_inv h
  · exact ok
  · obtain ⟨count, b1, ok⟩ := Broker.ack_of_open od.is_open hg ids
    rw [ok] at no
    cases no

/-- An acknowledgement takes away what the worker has held, and nothing that others hold. -/
lemma Orderly.call_ack [Scalar α] (od : Orderly k itemOf f) (sd : f.broker.Sound)
    (tl : ∀ m ∈ f.members, m.Tells k.codec) (hm : f.members[i]? = some m) {ids : List MessageId}
    {count : Nat} (ok : f.broker.ack k.inbound k.group ids = .ok (count, b'))
    (sub : ids ⊆ m.worker.phase.held)
    (own : ∀ id ∈ w.phase.held, id ∈ m.worker.phase.held ∧ id ∉ ids) :
    Orderly k itemOf ⟨b', f.members.set i
      (m.say (.ack k.inbound k.group ids (.ok count)) w)⟩ := by
  obtain ⟨g, -, -, bc⟩ := Broker.ackNames_spec ok
  -- what is held and not named stays pending
  have kept : ∀ m1 ∈ f.members, ∀ id ∈ m1.worker.phase.held, id ∉ ids →
      b'.HasPending k.inbound k.group id := by
    intro m1 h1 id h ni
    obtain ⟨offset, message, there, rfl, pd⟩ := od.held m1 h1 id h
    exact ⟨offset, message, bc.grows.getElem? there, rfl, sd.isPending_ack ok there ni pd⟩
  apply od.replace hm (m.said_say _ w) bc.is_open
  · intro y hy
    rw [List.mem_singleton.1 hy]
    exact ⟨count, rfl⟩
  · rw [List.flatMap_singleton]
    exact (bc.grows.delivered_eq sd (Broker.next_ack ok)).trans (List.append_nil _).symm
  · rw [bc.entries, List.flatMap_singleton]
    exact (List.append_nil _).symm
  · intro id h
    exact kept m (List.mem_of_getElem? hm) id (own id h).1 (own id h).2
  · intro j ne m1 h1 id h
    refine kept m1 (List.mem_of_getElem? h1) id h ?_
    intro h'
    exact od.held_disjoint sd tl hm h1 ne (sub h') h

variable [Scalar α] {enrich : List (Input α) → Except EnrichError (BatchResult α)} {time : Instant}

/-- Every call of a worker leaves everything in order. -/
lemma Orderly.call (od : Orderly k itemOf f) (sd : f.broker.Sound)
    (tl : ∀ m ∈ f.members, m.Tells k.codec) (fit : k.Fits m.worker.config)
    (he : ∀ inputs, enrich inputs = .ok (.ofItems (inputs.map itemOf)))
    (calm : ∀ g, f.broker.group? k.inbound k.group = some g →
      ∀ d ∈ g.pending, Group.isIdle f.broker.claimIdle time.ticks d = false)
    (hm : f.members[i]? = some m)
    (ds : Worker.Does k.codec (Broker.calls (m := Id) enrich (pure time)) m.worker f.broker x w
      b') : Orderly k itemOf ⟨b', f.members.set i (m.say x w)⟩ := by
  have inbound : m.worker.config.inbound = k.inbound := congrArg WorkerConfig.inbound fit.symm
  have outbound : m.worker.config.outbound = k.outbound := congrArg WorkerConfig.outbound fit.symm
  have group : m.worker.config.group = k.group := congrArg WorkerConfig.group fit.symm
  have mem := List.mem_of_getElem? hm
  have tr := (tl m mem).trace ds
  have gr := ds.grows
  cases ds with
  | poll ph h =>
    rw [inbound, group] at h ⊢
    -- a poll may be refused while there is no group
    obtain ⟨messages, rfl, ok⟩ | ⟨e, rfl, -, rfl⟩ := Broker.perform_inv h
    · exact od.call_poll hm ok calm fun id h => k.codec.name_of_mem (Worker.held_afterPoll _ h)
    · exact od.call_quiet sd hm (.refl _) od.is_open ⟨rfl, fun _ => id⟩ trivial rfl
        (List.append_nil _).symm (List.nil_subset _)
  | @drop batch _ _ ph h =>
    rw [inbound, group] at h ⊢
    rw [ph] at tr
    have held : m.worker.phase.held = batch.malformed ++ batch.ids := by
      rw [ph]
      rfl
    have sub : batch.malformed ⊆ m.worker.phase.held := by
      rw [held]
      exact List.subset_append_left _ _
    obtain ⟨count, rfl, ok⟩ := od.ack_answered hm tr.malformed_ne_nil sub h
    refine od.call_ack sd tl hm ok sub ?_
    intro id h
    have h' : id ∈ batch.ids := Worker.held_toEvents _ _ h
    rw [held]
    exact ⟨List.mem_append_right _ h', od.event_not_dropped sd mem tr h'⟩
  | enrich ph h h' =>
    cases h
    cases h'
    rw [he]
    refine od.call_quiet sd hm (.refl _) od.is_open ⟨rfl, fun _ => id⟩ rfl rfl
      (List.append_nil _).symm ?_
    rw [ph]
    exact Worker.held_toRecords _ _ _ _ _
  | publish ph h =>
    rw [outbound] at h ⊢
    obtain ⟨name, rfl, ok⟩ := od.publish_answered h
    have bc := Broker.publish_spec ok
    refine od.call_quiet sd hm gr bc.is_open (Broker.keeps_of_group_eq (bc.groups _ _))
      ⟨name, rfl⟩ rfl ?_ ?_
    · rw [bc.entries]
      exact if_pos rfl
    · rw [ph]
      exact Worker.held_toRecords _ _ _ _ _
  | @ack batch flags _ _ ph h =>
    rw [inbound, group] at h ⊢
    rw [ph] at tr
    have sub : m.worker.config.ackPolicy.select batch.ids flags ⊆ m.worker.phase.held := by
      rw [ph]
      exact AckPolicy.select_subset _ _ _
    obtain ⟨count, rfl, ok⟩ := od.ack_answered hm tr.select_ne_nil sub h
    refine od.call_ack sd tl hm ok sub ?_
    -- nothing is held once the iteration is complete
    intro id h
    cases h

end Call

section Calm

variable [Scalar α] [Measured α] {codec : Codec α} {inbound outbound group : String}
  {data : MapData α} {e : Enricher Id α} {claimIdle : Nat} {configs : List WorkerConfig}

/-- Over the data in memory enrichment reports on every event. -/
lemma reports_calm (he : e.gateway = data.gateway Id) :
    (Setting.calm codec inbound outbound group e).Reports := by
  rintro _ rfl inputs result h
  have same : result = .ofItems (inputs.map (e.itemOf data)) :=
    Except.ok.inj (h.symm.trans (Enricher.each_enrich he inputs))
  rw [same]
  apply List.forall₂_map_right_iff.2
  exact List.forall₂_same.2 fun input _ => e.reports_itemOf data input

/-- What is done from outside leaves everything in order. -/
lemma Orderly.outside {op : Operation}
    (od : Orderly (.calm codec inbound outbound group e) itemOf f) (sd : f.broker.Sound)
    (ho : (Setting.calm codec inbound outbound group e).outside op) :
    Orderly (.calm codec inbound outbound group e) itemOf ⟨f.broker.after op, f.members⟩ := by
  obtain ⟨nc, nt, np⟩ := ho
  have gr := f.broker.grows_after op
  have keep := Broker.keeps_after (b := f.broker) nt
  have delivered := gr.delivered_eq sd keep.1
  have entries := Broker.entries_after (b := f.broker) np
  constructor
  · exact Broker.open_after nc od.is_open
  · exact od.succeeds
  · exact delivered ▸ od.polled
  · exact delivered ▸ od.polled_order
  · exact entries ▸ od.published
  · exact entries ▸ od.published_order
  · exact fun m hm id h => (od.held m hm id h).mono gr keep.2

omit [Scalar α] [Measured α] in
/-- A fleet is in order before anything is done. -/
lemma Orderly.initial (k : Setting α) (claimIdle : Nat) (configs : List WorkerConfig) :
    Orderly k itemOf (initial k claimIdle configs) := by
  have silent : ∀ m ∈ (Fleet.initial k claimIdle configs).members,
      m.said = [] ∧ m.worker.phase.held = [] := by
    intro m hm
    obtain ⟨config, -, rfl⟩ := List.mem_map.1 hm
    exact ⟨rfl, rfl⟩
  have polled : ∀ m ∈ (Fleet.initial k claimIdle configs).members, m.polled = [] := by
    intro m hm
    rw [Member.polled, (silent m hm).1]
    rfl
  have published : ∀ m ∈ (Fleet.initial k claimIdle configs).members, m.published = [] := by
    intro m hm
    rw [Member.published, (silent m hm).1]
    rfl
  constructor
  case is_open => rfl
  case succeeds =>
    intro m hm x hx
    rw [(silent m hm).1] at hx
    cases hx
  case polled =>
    rw [List.flatMap_eq_nil_iff.2 polled]
    exact List.Perm.refl []
  case polled_order =>
    intro m hm
    rw [polled m hm]
    exact List.nil_sublist _
  case published =>
    rw [List.flatMap_eq_nil_iff.2 published]
    exact List.Perm.refl []
  case published_order =>
    intro m hm
    rw [published m hm]
    exact List.nil_sublist _
  case held =>
    intro m hm id h
    rw [(silent m hm).2] at h
    cases h

omit [Scalar α] [Measured α] in
/-- Starting a worker anew leaves everything in order. -/
lemma Orderly.start (od : Orderly k itemOf f) {i : Nat} {m : Member α}
    (hm : f.members[i]? = some m) :
    Orderly k itemOf ⟨f.broker, f.members.set i m.start⟩ := by
  apply od.replace hm (m.said_start.trans (List.append_nil _).symm) od.is_open
  · intro x hx
    cases hx
  · exact (List.append_nil _).symm
  · exact (List.append_nil _).symm
  · intro id h
    cases h
  · intro j _ m1 h1 id h
    exact od.held m1 (List.mem_of_getElem? h1) id h

/-- In every state that can be reached everything is in order. -/
lemma Reachable.orderly (he : e.gateway = data.gateway Id)
    (rc : Reachable (.calm codec inbound outbound group e) claimIdle configs f) :
    Orderly (.calm codec inbound outbound group e) (e.itemOf data) f := by
  induction rc with
  | initial => exact .initial _ claimIdle configs
  | step rc st od =>
    have sd := rc.sound
    cases st.effect with
    | none => exact od
    | start hm => exact od.start hm
    | call hm hen hr ds =>
      have fit := rc.fits _ (List.mem_of_getElem? hm)
      refine od.call sd (rc.tells (reports_calm he)) fit ?_ hr hm ds
      rw [hen]
      exact Enricher.each_enrich he
    | outside ho => exact od.outside sd ho

/-- When the group is drained, every worker has published the records of all events that it was
given. -/
lemma Reachable.faithful (he : e.gateway = data.gateway Id)
    (plain : ∀ item index time, codec.record { item with index } time = codec.record item time)
    (rc : Reachable (.calm codec inbound outbound group e) claimIdle configs f)
    (none : ∀ id, ¬ f.broker.HasPending inbound group id) :
    ∀ m ∈ f.members, Faithful e codec m.said := by
  intro m hm
  have od := rc.orderly he
  have tl := rc.tells (reports_calm he) m hm
  have idle : ∀ id, id ∉ m.worker.phase.held := fun id h => none id (od.held m hm id h)
  apply Faithful.flatten
  intro said hs
  have ok : ∀ x ∈ said, x.Succeeds (e.itemOf data) :=
    fun x hx => od.succeeds m hm x (List.mem_flatten.2 ⟨said, hs, hx⟩)
  have completed : said = [] ∨ ∃ outcome, Transcript codec m.worker.config said outcome := by
    obtain past | current := List.mem_append.1 hs
    · exact tl.past said past
    · rw [List.mem_singleton.1 current]
      obtain ⟨nil, -⟩ | tr := tl.current
      · exact .inl nil
      · exact tr.completed idle
  obtain rfl | ⟨outcome, tr⟩ := completed
  · exact .of_nil rfl rfl
  · exact tr.faithful he plain ok

/-- What faithful workers have published together are the records of what they were given
together. -/
lemma forall₂_members {members : List (Member α)} (ff : ∀ m ∈ members, Faithful e codec m.said) :
    List.Forall₂ (e.RecordsAlone codec) (codec.contents (members.flatMap Member.polled))
      (members.flatMap Member.published) := by
  unfold Codec.contents
  rw [List.filterMap_flatMap]
  exact forall₂_flatMap ff

omit [Scalar α] [Measured α] in
/-- A fleet keeps its workers. -/
lemma Reachable.length_members {k : Setting α} (rc : Reachable k claimIdle configs f) :
    f.members.length = configs.length := by
  induction rc with
  | initial => exact List.length_map _
  | step _ st ih =>
    cases st.effect with
    | none => exact ih
    | start => exact (List.length_set ..).trans ih
    | call => exact (List.length_set ..).trans ih
    | outside => exact ih

end Calm

/-- **Every event is published exactly once.** Workers of one group share a broker that stays open,
nothing is pending for long, and the gateway answers from memory; whatever the order of their calls
and of what is published inbound, and however many messages each of them takes at a time. When the
group is drained, the entries of the outbound stream are the records of the events of the inbound
stream, one for each event in some order, as enriching this event alone gives them. Each worker has
published the records of the events that it was given, in the order of the stream; a worker that has
no others beside it has published all of them in this order. -/
theorem exactly_once (data : MapData Float) (matcher : MatcherConfig Float)
    (router : Option (Router Id Float)) (inbound outbound group : String) (claimIdle : Nat)
    (configs : List WorkerConfig) {f : Fleet Float}
    (rc : Reachable (.calm .json inbound outbound group ⟨data.gateway Id, matcher, router⟩)
      claimIdle configs f)
    (there : (f.broker.group? inbound group).isSome)
    (drained : f.broker.isDrained inbound group = true) :
    let e : Enricher Id Float := ⟨data.gateway Id, matcher, router⟩
    let events := Codec.json.contents (f.broker.entries inbound)
    (∃ published, published.Perm events ∧
      List.Forall₂ (e.RecordsAlone .json) published (f.broker.entries outbound)) ∧
    (f.members.flatMap Member.polled).Perm (f.broker.entries inbound) ∧
    (f.members.flatMap Member.published).Perm (f.broker.entries outbound) ∧
    (∀ m ∈ f.members, m.polled.Sublist (f.broker.entries inbound) ∧
      m.published.Sublist (f.broker.entries outbound) ∧
      List.Forall₂ (e.RecordsAlone .json) (Codec.json.contents m.polled) m.published) ∧
    (configs.length = 1 →
      List.Forall₂ (e.RecordsAlone .json) events (f.broker.entries outbound)) := by
  intro e events
  have he : e.gateway = data.gateway Id := rfl
  have od := rc.orderly he
  obtain ⟨delivered, none⟩ := rc.sound.delivered_of_drained there drained
  have faithful := rc.faithful he (fun _ _ _ => rfl) none
  have polled : (f.members.flatMap Member.polled).Perm (f.broker.entries inbound) :=
    delivered ▸ od.polled
  have order : ∀ m ∈ f.members, m.polled.Sublist (f.broker.entries inbound) :=
    delivered ▸ od.polled_order
  refine ⟨?_, polled, od.published, ?_, ?_⟩
  · exact exists_perm_forall₂ (forall₂_members faithful) (polled.filterMap _) od.published
  · exact fun m hm => ⟨order m hm, od.published_order m hm, faithful m hm⟩
  · intro one
    obtain ⟨m, single⟩ := List.length_eq_one_iff.1 (rc.length_members.trans one)
    have mem : m ∈ f.members := single ▸ List.mem_cons_self
    have published := od.published
    rw [single, List.flatMap_singleton] at polled published
    have ff : List.Forall₂ (e.RecordsAlone .json) (Codec.json.contents m.polled) m.published :=
      faithful m mem
    rw [(order m mem).eq_of_length polled.length_eq,
      (od.published_order m mem).eq_of_length published.length_eq] at ff
    exact ff

section Sample

/-- Two workers that take one message at a time. -/
def twoWorkers : List WorkerConfig :=
  [⟨"", "", "", "v", 1, ⟨0, 0, 0⟩, .strict⟩, ⟨"", "", "", "w", 1, ⟨0, 0, 0⟩, .atLeastOnce⟩]

/-- Enriching with no map data. -/
def offTheMap : Enricher Id Float :=
  ⟨(MapData.ofFeatures [] [] []).gateway Id, .standard, none⟩

/-- The streams and the group of the two workers. -/
def offTheMapSetting : Setting Float := .calm .json "in" "out" "g" offTheMap

/-- The two workers, each at the beginning of an iteration, and two events. -/
def beforeTwoEvents : Fleet Float :=
  initial offTheMapSetting 1 twoWorkers
    |>.after (.publish 1 "in" "[\"home\", \"\"]") |>.after (.publish 2 "in" "[\"work\", \"\"]")
    |>.after (.createGroup "in" "g") |>.start 0 |>.start 1

/-- One of the workers makes a call, while the clock stands still. -/
def offTheMapCall (f : Fleet Float) (i : Nat) : Fleet Float :=
  act offTheMapSetting (fun inputs => (offTheMap.enrich inputs).run) ⟨0, 0, "now"⟩ i f

/-- The two workers after each of them has worked off an event. The second event was published
first. -/
def afterTwoEvents : Fleet Float := [0, 1, 1, 1, 1, 0, 0, 0].foldl offTheMapCall beforeTwoEvents

/-- Calls of the workers while the clock stands still. -/
lemma reachable_calls {f : Fleet Float} (rc : Reachable offTheMapSetting 1 twoWorkers f)
    (calls : List Nat) : Reachable offTheMapSetting 1 twoWorkers (calls.foldl offTheMapCall f) := by
  induction calls generalizing f with
  | nil => exact rc
  | cons i calls ih =>
    refine ih (rc.step (.act i rfl ?_))
    intro g _ d _
    rw [rc.claimIdle_eq, Group.isIdle, Nat.zero_sub]
    rfl

/-- The two workers reach the state in which both events are published. -/
lemma reachable_afterTwoEvents : Reachable offTheMapSetting 1 twoWorkers afterTwoEvents := by
  have outside : ∀ {f} op, offTheMapSetting.outside op →
      Reachable offTheMapSetting 1 twoWorkers f →
      Reachable offTheMapSetting 1 twoWorkers (f.after op) :=
    fun op ho rc => rc.step (.outside ho)
  have home := outside (.publish 1 "in" "[\"home\", \"\"]") ⟨by simp, id, by simp⟩ .initial
  have work := outside (.publish 2 "in" "[\"work\", \"\"]") ⟨by simp, id, by simp⟩ home
  have group := outside (.createGroup "in" "g") ⟨by simp, id, by simp⟩ work
  exact reachable_calls ((group.step (.start 0)).step (.start 1)) _

/-- Both events have been published. -/
theorem home_and_work_published : ∃ f published,
    Reachable offTheMapSetting 1 twoWorkers f ∧
    published.Perm (Codec.json.contents (f.broker.entries "in")) ∧
    List.Forall₂ (offTheMap.RecordsAlone .json) published (f.broker.entries "out") ∧
    (f.broker.entries "out").length = 2 := by
  obtain ⟨⟨published, perm, recs⟩, -⟩ :=
    exactly_once (.ofFeatures [] [] []) .standard none "in" "out" "g" 1 twoWorkers
      reachable_afterTwoEvents (by decide) (by decide)
  exact ⟨afterTwoEvents, published, reachable_afterTwoEvents, perm, recs, by decide⟩

end Sample

end Fleet

end Whereabouts
