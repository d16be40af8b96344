import Mathlib.Data.List.Nodup
import Whereabouts.Proofs.Enrich.Alignment
import Whereabouts.Proofs.Stream.Exchange

/-!
# Transcripts of iterations

What a worker says in one iteration has one of a few forms, whatever is answered. `Trace` says what
a worker has said so far in each of its phases, and `Transcript` what it has said when it rests.

* `Worker.Does.trace`: every call keeps what has been said and the phase together.
* `Transcript.rejected_of_error`: an iteration that fails has acknowledged no event.
* `Worker.runOnce_transcript`: every iteration comes to rest with a transcript.
-/

namespace Whereabouts

section Reading

variable {α : Type} (codec : Codec α) (messages : List Message)

/-- The events of messages, with the names of the messages. -/
def Codec.events : List (MessageId × Event α) :=
  messages.filterMap fun m => (codec.event? m.payload).map fun event => (m.id, event)

/-- The names of the messages that hold no events. -/
def Codec.rejects : List MessageId :=
  (messages.filter fun m => (codec.event? m.payload).isNone).map (·.id)

/-- The events of messages, numbered. -/
def Codec.inputs : List (Input α) :=
  (codec.events messages).mapIdx fun index (_, event) => ⟨index, event⟩

/-- A batch has the events of its messages and the names of the others. -/
lemma MessageBatch.ofMessages_eq :
    ofMessages codec messages = ⟨codec.events messages, codec.rejects messages⟩ := by
  induction messages with
  | nil => rfl
  | cons m rest ih =>
    unfold ofMessages
    rw [ih]
    cases e : codec.event? m.payload with
    | none => simp [Codec.events, Codec.rejects, e]
    | some event => simp [Codec.events, Codec.rejects, e]

/-- The parsed part of a batch is the events of its messages. -/
@[simp] lemma MessageBatch.parsed_ofMessages :
    (ofMessages codec messages).parsed = codec.events messages := by
  rw [ofMessages_eq]

/-- The malformed part of a batch is the messages that are no events. -/
@[simp] lemma MessageBatch.malformed_ofMessages :
    (ofMessages codec messages).malformed = codec.rejects messages := by
  rw [ofMessages_eq]

/-- The names of a batch are those of its events. -/
@[simp] lemma MessageBatch.ids_ofMessages :
    (ofMessages codec messages).ids = (codec.events messages).map (·.1) := by
  rw [ofMessages_eq]
  rfl

/-- The inputs of a batch are those of its messages. -/
@[simp] lemma MessageBatch.inputs_ofMessages :
    (ofMessages codec messages).inputs = codec.inputs messages := by
  rw [ofMessages_eq]
  rfl

/-- A message is rejected where it is no event. -/
lemma Codec.mem_rejects {id : MessageId} :
    id ∈ codec.rejects messages ↔ ∃ m ∈ messages, codec.event? m.payload = none ∧ m.id = id := by
  simp [rejects, and_assoc]

/-- An event stands in a batch where a message holds it. -/
lemma Codec.mem_events {id : MessageId} {event : Event α} :
    (id, event) ∈ codec.events messages ↔
      ∃ m ∈ messages, codec.event? m.payload = some event ∧ m.id = id := by
  simp only [events, List.mem_filterMap, Option.map_eq_some_iff, Prod.mk.injEq]
  constructor
  · rintro ⟨m, hm, event, he, rfl, rfl⟩
    exact ⟨m, hm, he, rfl⟩
  · rintro ⟨m, hm, he, rfl⟩
    exact ⟨m, hm, event, he, rfl, rfl⟩

/-- Where the names of the messages are distinct, no event is dropped. -/
lemma Codec.notMem_rejects (nd : (messages.map (·.id)).Nodup) {id : MessageId} {event : Event α}
    (h : (id, event) ∈ codec.events messages) : id ∉ codec.rejects messages := by
  intro h'
  obtain ⟨m, hm, e, rfl⟩ := (codec.mem_events messages).1 h
  obtain ⟨m', hm', e', same⟩ := (codec.mem_rejects messages).1 h'
  cases List.inj_on_of_nodup_map nd hm hm' same.symm
  rw [e] at e'
  cases e'

/-- There is one input for each event. -/
@[simp] lemma Codec.length_inputs :
    (codec.inputs messages).length = (codec.events messages).length := by
  simp [inputs]

end Reading

/-- The names that a policy acknowledges after publishing; the answers are those to the records. -/
def AckPolicy.chosen (policy : AckPolicy) (ids : List MessageId)
    (answers : List (Except BrokerError MessageId)) : List MessageId :=
  match policy with
  | .atLeastOnce => ids
  | .strict => ((ids.zip answers).filter (·.2.isOk)).map (·.1)

/-- A policy selects by the flags what it chooses by the answers. -/
lemma AckPolicy.select_eq (policy : AckPolicy) (ids : List MessageId)
    (answers : List (Except BrokerError MessageId)) :
    policy.select ids (answers.map (·.isOk)) = policy.chosen ids answers := by
  cases policy with
  | atLeastOnce => rfl
  | strict =>
    simp only [select, chosen, List.zip_map_right, List.filter_map, List.map_map]
    rfl

/-- Only names of the batch are selected for acknowledgement. -/
lemma AckPolicy.select_subset (policy : AckPolicy) (ids : List MessageId) (flags : List Bool) :
    policy.select ids flags ⊆ ids := by
  intro id h
  cases policy with
  | atLeastOnce => exact h
  | strict =>
    obtain ⟨⟨id1, flag⟩, h1, rfl⟩ := List.mem_map.1 h
    exact (List.of_mem_zip (List.mem_filter.1 h1).1).1

/-- The flags after some answers, with `left` items that have none so far. -/
def flags (answers : List (Except BrokerError MessageId)) (left : Nat) : List Bool :=
  answers.map (·.isOk) ++ List.replicate left false

/-- Without earlier publications the flags are those of the answers. -/
lemma flags_zero (answers : List (Except BrokerError MessageId)) :
    flags answers 0 = answers.map (·.isOk) :=
  List.append_nil _

/-- An error raises no flag. -/
lemma flags_error (answers : List (Except BrokerError MessageId)) (left : Nat) (e : BrokerError) :
    flags (answers ++ [.error e]) left = flags answers (left + 1) := by
  unfold flags
  rw [List.map_append, List.append_assoc]
  rfl

/-- A name raises the flag of its item. -/
lemma flags_ok (answers : List (Except BrokerError MessageId)) (left : Nat) (id : MessageId) :
    flags (answers ++ [.ok id]) left = (flags answers (left + 1)).set answers.length true := by
  have len : (answers.map (·.isOk)).length = answers.length := List.length_map _
  unfold flags
  rw [← len, List.set_append_right _ _ (Nat.le_refl _), Nat.sub_self, List.map_append,
    List.append_assoc]
  rfl

namespace WorkerConfig

variable {α : Type} (config : WorkerConfig)

/-- The poll of a worker. -/
def poll (answer : Except BrokerError (List Message)) : Exchange α :=
  .poll config.inbound config.group config.consumer config.maxBatch answer

/-- An acknowledgement of a worker. -/
def ack (ids : List MessageId) (answer : Except BrokerError Nat) : Exchange α :=
  .ack config.inbound config.group ids answer

/-- The records of a worker for items, one by one, with the answers. -/
def publishes (codec : Codec α) (time : String) (items : List (Item α))
    (answers : List (Except BrokerError MessageId)) : List (Exchange α) :=
  (items.zip answers).map fun (item, answer) =>
    .publish config.outbound (codec.record item time) answer

/-- What is said while publishing is the publication of a record. -/
lemma mem_publishes {codec : Codec α} {time : String} {items : List (Item α)}
    {answers : List (Except BrokerError MessageId)} {x : Exchange α}
    (h : x ∈ config.publishes codec time items answers) :
    ∃ item answer, x = .publish config.outbound (codec.record item time) answer := by
  obtain ⟨⟨item, answer⟩, -, rfl⟩ := List.mem_map.1 h
  exact ⟨item, answer, rfl⟩

/-- The record of an item is published with the answer at the same place. -/
lemma publish_mem {codec : Codec α} {time : String} {items : List (Item α)}
    {answers : List (Except BrokerError MessageId)} {n : Nat} {item : Item α}
    {answer : Except BrokerError MessageId} (hi : items[n]? = some item)
    (ha : answers[n]? = some answer) :
    .publish config.outbound (codec.record item time) answer ∈
      config.publishes codec time items answers := by
  have pair : (items.zip answers)[n]? = some (item, answer) :=
    List.getElem?_zip_eq_some.2 ⟨hi, ha⟩
  exact List.mem_map.2 ⟨_, List.mem_of_getElem? pair, rfl⟩

/-- One item more is published after the others. -/
lemma publishes_concat (codec : Codec α) (time : String) {items : List (Item α)}
    {answers : List (Except BrokerError MessageId)} (len : answers.length = items.length)
    (item : Item α) (answer : Except BrokerError MessageId) :
    config.publishes codec time (items ++ [item]) (answers ++ [answer]) =
      config.publishes codec time items answers ++
        [.publish config.outbound (codec.record item time) answer] := by
  unfold publishes
  rw [List.zip_append len.symm, List.map_append]
  rfl

end WorkerConfig

section Transcript

variable {α : Type} (codec : Codec α) (config : WorkerConfig)

/-- What is said until there are events to enrich: the poll, and one acknowledgement of the messages
that hold no events, if there are any. -/
inductive Reads (messages : List Message) : List (Exchange α) → Prop where
  | all :
    codec.rejects messages = [] →
    Reads messages [config.poll (.ok messages)]
  | some (count) :
    codec.rejects messages ≠ [] →
    Reads messages
      [config.poll (.ok messages), config.ack (codec.rejects messages) (.ok count)]

section

variable {codec config} {messages : List Message} {log : List (Exchange α)}
  {x : Exchange α}

/-- The answer to the poll is known from what is said. -/
lemma Reads.poll_mem_iff {messages' : List Message} (rd : Reads codec config messages log) :
    config.poll (.ok messages') ∈ log ↔ messages' = messages := by
  cases rd with
  | all => simp [WorkerConfig.poll]
  | some => simp [WorkerConfig.poll, WorkerConfig.ack]

end

variable [Scalar α]

/-- What is said until there are records to publish: the items report the events one by one. -/
inductive Enriches (messages : List Message) (items : List (Item α)) :
    List (Exchange α) → Prop where
  | mk {log total success errors} :
    codec.events messages ≠ [] →
    Reads codec config messages log →
    List.Forall₂ Item.Reports (codec.inputs messages) items →
    Enriches messages items
      (log ++ [.enrich (codec.inputs messages) (.ok ⟨items, total, success, errors⟩)])

section

variable {codec config} {messages : List Message} {items : List (Item α)} {log : List (Exchange α)}
  {x : Exchange α}

/-- The poll of an enriched batch is the one that gave its messages. -/
lemma Enriches.poll_mem_iff {messages' : List Message}
    (en : Enriches codec config messages items log) :
    config.poll (.ok messages') ∈ log ↔ messages' = messages := by
  cases en with
  | mk _ rd _ =>
    rw [List.mem_append, rd.poll_mem_iff]
    simp [WorkerConfig.poll]

/-- There is one item for each event of an enriched batch. -/
lemma Enriches.length_eq (en : Enriches codec config messages items log) :
    (codec.events messages).length = items.length := by
  cases en with
  | mk _ _ rp =>
    rw [← rp.length_eq]
    exact (codec.length_inputs messages).symm

/-- The item at a place reports the event at this place. -/
lemma Enriches.reports (en : Enriches codec config messages items log) {k : Nat} {item : Item α}
    (h : items[k]? = some item) : ∃ id event, (codec.events messages)[k]? = some (id, event) ∧
      Item.Reports ⟨k, event⟩ item := by
  cases en with
  | mk _ _ rp =>
    obtain ⟨lt, e⟩ := List.getElem?_eq_some_iff.1 h
    have lt' : k < (codec.events messages).length := by
      rw [← codec.length_inputs, rp.length_eq]
      exact lt
    have at_k := rp.get (i := k) (rp.length_eq ▸ lt) lt
    refine ⟨_, _, List.getElem?_eq_getElem lt', ?_⟩
    simpa [Codec.inputs, e] using at_k

end

/-- What is said in a whole iteration, and what comes of it. -/
inductive Transcript : List (Exchange α) → Except WorkerError Iteration → Prop where
  /-- The poll is refused. -/
  | refused (e) :
    Transcript [config.poll (.error e)] (.error (.broker e))
  | idle :
    Transcript [config.poll (.ok [])] (.ok .idle)
  /-- The messages that hold no events cannot be acknowledged. -/
  | keepsRejects {messages} (e) :
    codec.rejects messages ≠ [] →
    Transcript [config.poll (.ok messages), config.ack (codec.rejects messages) (.error e)]
      (.error (.broker e))
  | noEvents {messages log} :
    messages ≠ [] →
    codec.events messages = [] →
    Reads codec config messages log →
    Transcript log (.ok (.processed 0 0))
  | notEnriched {messages log} (e) :
    codec.events messages ≠ [] →
    Reads codec config messages log →
    Transcript (log ++ [.enrich (codec.inputs messages) (.error e)]) (.error (.enrich e))
  /-- One record for each event, and nothing to acknowledge. -/
  | unacknowledged {messages items log answers} (time) :
    Enriches codec config messages items log →
    answers.length = items.length →
    config.ackPolicy.chosen ((codec.events messages).map (·.1)) answers = [] →
    Transcript (log ++ config.publishes codec time items answers)
      (.ok (.processed (codec.events messages).length (answers.countP (·.isOk))))
  /-- One record for each event, and one acknowledgement of what the policy chooses. -/
  | acknowledged {messages items log answers} (time count) :
    Enriches codec config messages items log →
    answers.length = items.length →
    config.ackPolicy.chosen ((codec.events messages).map (·.1)) answers ≠ [] →
    Transcript (log ++ config.publishes codec time items answers ++
        [config.ack (config.ackPolicy.chosen ((codec.events messages).map (·.1)) answers)
          (.ok count)])
      (.ok (.processed (codec.events messages).length (answers.countP (·.isOk))))
  | notAcknowledged {messages items log answers} (time e) :
    Enriches codec config messages items log →
    answers.length = items.length →
    config.ackPolicy.chosen ((codec.events messages).map (·.1)) answers ≠ [] →
    Transcript (log ++ config.publishes codec time items answers ++
        [config.ack (config.ackPolicy.chosen ((codec.events messages).map (·.1)) answers)
          (.error e)])
      (.error (.broker e))

/-- What has been said in an iteration when the worker is in a phase. -/
inductive Trace : List (Exchange α) → Phase α → Prop where
  | resting {log outcome} :
    Transcript codec config log outcome →
    Trace log (.resting outcome)
  | polling : Trace [] .polling
  | dropping {messages} :
    codec.rejects messages ≠ [] →
    Trace [config.poll (.ok messages)] (.dropping (.ofMessages codec messages))
  | enriching {messages log} :
    codec.events messages ≠ [] →
    Reads codec config messages log →
    Trace log (.enriching (.ofMessages codec messages))
  /-- The flags are those of the answers so far; the items that are left have none. -/
  | publishing {messages done item items log answers} (time) :
    Enriches codec config messages (done ++ item :: items) log →
    answers.length = done.length →
    Trace (log ++ config.publishes codec time done answers)
      (.publishing (.ofMessages codec messages) time item items (flags answers (items.length + 1)))
  | acking {messages items log answers} (time) :
    Enriches codec config messages items log →
    answers.length = items.length →
    config.ackPolicy.chosen ((codec.events messages).map (·.1)) answers ≠ [] →
    Trace (log ++ config.publishes codec time items answers)
      (.acking (.ofMessages codec messages) (answers.map (·.isOk)))

section

variable {codec config} {messages : List Message} {log : List (Exchange α)}

/-- The calls of an iteration that has come to rest are its transcript. -/
lemma Trace.transcript {outcome : Except WorkerError Iteration}
    (tr : Trace codec config log (.resting outcome)) : Transcript codec config log outcome := by
  cases tr with
  | resting tr => exact tr

/-- What was said before messages are dropped. -/
lemma Trace.dropping_inv {batch : MessageBatch α} (tr : Trace codec config log (.dropping batch)) :
    ∃ messages, batch = .ofMessages codec messages ∧ codec.rejects messages ≠ [] ∧
      log = [config.poll (.ok messages)] := by
  cases tr with
  | @dropping messages ne => exact ⟨messages, rfl, ne, rfl⟩

/-- What was said before messages are acknowledged after publishing. -/
lemma Trace.acking_inv {batch : MessageBatch α} {flags : List Bool}
    (tr : Trace codec config log (.acking batch flags)) :
    ∃ messages items log' answers time, batch = .ofMessages codec messages ∧
      flags = answers.map (·.isOk) ∧
      config.ackPolicy.chosen ((codec.events messages).map (·.1)) answers ≠ [] ∧
      Enriches codec config messages items log' ∧ answers.length = items.length ∧
      log = log' ++ config.publishes codec time items answers := by
  cases tr with
  | @acking messages items log' answers time en len ne =>
    exact ⟨messages, items, log', answers, time, rfl, rfl, ne, en, len, rfl⟩

end

end Transcript

namespace Worker

variable {σ α : Type} {codec : Codec α} {calls : Calls (StateM σ) α} {w : Worker α}
  {config : WorkerConfig} {messages : List Message} {items : List (Item α)}
  {log : List (Exchange α)} {answers : List (Except BrokerError MessageId)}

/-- A batch that was acknowledged ends the iteration, with the number of its publications. -/
lemma phase_complete (w : Worker α) (messages : List Message)
    (answers : List (Except BrokerError MessageId)) :
    (w.complete (.ofMessages codec messages) (answers.map (·.isOk))).phase =
      .resting (.ok (.processed (codec.events messages).length (answers.countP (·.isOk)))) := by
  show Phase.resting _ = _
  rw [MessageBatch.parsed_ofMessages, List.count, List.countP_map]
  congr 3
  apply List.countP_congr
  simp

variable [Scalar α]

/-- When all records have been answered, the chosen messages are acknowledged, if there are any. -/
lemma trace_toAcks (ec : w.config = config) (time : String)
    (en : Enriches codec config messages items log) (len : answers.length = items.length) :
    Trace codec config (log ++ config.publishes codec time items answers)
      (w.toAcks (.ofMessages codec messages) (answers.map (·.isOk))).phase := by
  subst ec
  unfold toAcks
  rw [AckPolicy.select_eq, MessageBatch.ids_ofMessages]
  split
  next none =>
    rw [phase_complete]
    exact .resting (.unacknowledged time en len (List.isEmpty_iff.1 none))
  next some => exact .acking time en len (mt List.isEmpty_iff.2 some)

/-- The items that are left are published one by one. -/
lemma trace_toRecords (ec : w.config = config) (time : String) {done left : List (Item α)}
    (en : Enriches codec config messages (done ++ left) log) (len : answers.length = done.length) :
    Trace codec config (log ++ config.publishes codec time done answers)
      (w.toRecords (.ofMessages codec messages) time left (flags answers left.length)).phase := by
  cases left with
  | nil =>
    rw [List.append_nil] at en
    rw [List.length_nil, flags_zero]
    exact trace_toAcks ec time en len
  | cons item left => exact .publishing time en len

/-- When the messages without events have been dropped, the others are enriched, if there are
any. -/
lemma trace_toEvents (w : Worker α) (ne : messages ≠ []) (rd : Reads codec config messages log) :
    Trace codec config log (w.toEvents (.ofMessages codec messages)).phase := by
  unfold toEvents
  rw [MessageBatch.parsed_ofMessages]
  split
  next none => exact .resting (.noEvents ne (List.isEmpty_iff.1 none) rd)
  next some => exact .enriching (mt List.isEmpty_iff.2 some) rd

/-- What a worker does when its poll is answered. -/
lemma trace_afterPoll (w : Worker α) (answer : Except BrokerError (List Message)) :
    Trace codec w.config [w.config.poll answer] (w.afterPoll codec answer).phase := by
  cases answer with
  | error e => exact .resting (.refused e)
  | ok messages =>
    cases messages with
    | nil => exact .resting .idle
    | cons m rest =>
      unfold afterPoll
      dsimp only
      rw [MessageBatch.malformed_ofMessages]
      split
      next none =>
        exact trace_toEvents _ (List.cons_ne_nil m rest) (.all (List.isEmpty_iff.1 none))
      next some => exact .dropping (mt List.isEmpty_iff.2 some)

/-- What a worker does when its messages without events have been acknowledged, or not. -/
lemma trace_afterDrop (w : Worker α) (ne : codec.rejects messages ≠ [])
    (answer : Except BrokerError Nat) :
    Trace codec w.config
      [w.config.poll (.ok messages), w.config.ack (codec.rejects messages) answer]
      (w.afterDrop (.ofMessages codec messages) answer).phase := by
  cases answer with
  | error e => exact .resting (.keepsRejects e ne)
  | ok count =>
    refine trace_toEvents (w.addAcked count) ?_ (.some count ne)
    rintro rfl
    exact ne rfl

/-- What a worker does when its events have been enriched, or not. -/
lemma trace_afterEnrich (w : Worker α) (ne : codec.events messages ≠ [])
    (rd : Reads codec w.config messages log) (time : String)
    (answer : Except EnrichError (BatchResult α))
    (rp : ∀ result, answer = .ok result →
      List.Forall₂ Item.Reports (codec.inputs messages) result.items) :
    Trace codec w.config (log ++ [.enrich (codec.inputs messages) answer])
      (w.afterEnrich (.ofMessages codec messages) time answer).phase := by
  cases answer with
  | error e => exact .resting (.notEnriched e ne rd)
  | ok result =>
    have en : Enriches codec w.config messages ([] ++ result.items)
        (log ++ [.enrich (codec.inputs messages) (.ok result)]) := .mk ne rd (rp result rfl)
    have len : (codec.events messages).length = result.items.length := en.length_eq
    -- no item has an answer so far, so the trace is that of an empty list of records
    have start : Trace codec w.config (_ ++ w.config.publishes codec time [] []) _ :=
      trace_toRecords rfl time en rfl
    rw [← len] at start
    unfold afterEnrich
    rw [MessageBatch.parsed_ofMessages]
    exact List.append_nil (log ++ _) ▸ start

/-- What a worker does when a record has been published, or not. -/
lemma trace_afterPublish (w : Worker α) (time : String) {done left : List (Item α)} {item : Item α}
    (en : Enriches codec w.config messages (done ++ item :: left) log)
    (len : answers.length = done.length) (answer : Except BrokerError MessageId) :
    Trace codec w.config (log ++ w.config.publishes codec time (done ++ [item]) (answers ++ [answer]))
      (w.afterPublish (.ofMessages codec messages) time item left
        (flags answers (left.length + 1)) answer).phase := by
  -- the item stands where the next answer will stand, so the answer sets its own flag
  have here : (done ++ item :: left)[done.length]? = some item := by simp
  obtain ⟨_, _, -, rps⟩ := en.reports here
  have ei : item.index = answers.length := by
    rw [rps.index_eq, len]
  have en' : Enriches codec w.config messages ((done ++ [item]) ++ left) log := by
    rw [List.append_assoc]
    exact en
  have len' : (answers ++ [answer]).length = (done ++ [item]).length := by
    rw [List.length_append, List.length_append, len]
    rfl
  unfold afterPublish
  cases answer with
  | error e =>
    rw [← flags_error answers left.length e]
    refine trace_toRecords ?_ time en' len'
    rfl
  | ok id =>
    rw [ei, ← flags_ok answers left.length id]
    refine trace_toRecords ?_ time en' len'
    rfl

/-- What a worker does when its messages have been acknowledged, or not. -/
lemma trace_afterAck (w : Worker α) (time : String) (en : Enriches codec w.config messages items log)
    (len : answers.length = items.length)
    (ne : w.config.ackPolicy.chosen ((codec.events messages).map (·.1)) answers ≠ [])
    (answer : Except BrokerError Nat) :
    Trace codec w.config (log ++ w.config.publishes codec time items answers ++
        [w.config.ack (w.config.ackPolicy.chosen ((codec.events messages).map (·.1)) answers) answer])
      (w.afterAck (.ofMessages codec messages) (answers.map (·.isOk)) answer).phase := by
  cases answer with
  | error e => exact .resting (.notAcknowledged time e en len ne)
  | ok count =>
    show Trace _ _ _ ((w.addAcked count).complete _ _).phase
    rw [phase_complete]
    exact .resting (.acknowledged time count en len ne)

/-- Every call keeps what has been said and the phase together. -/
lemma Does.trace {w' : Worker α} {s s' : σ} {x : Exchange α}
    (ds : Does codec calls w s x w' s')
    (rp : ∀ inputs result s1, (calls.enrich inputs).run s = (.ok result, s1) →
      List.Forall₂ Item.Reports inputs result.items)
    (tr : Trace codec w.config log w.phase) : Trace codec w.config (log ++ [x]) w'.phase := by
  cases ds with
  | poll ph _ =>
    rw [ph] at tr
    cases tr
    exact trace_afterPoll w _
  | drop ph _ =>
    rw [ph] at tr
    cases tr with
    | dropping ne =>
      rw [MessageBatch.malformed_ofMessages]
      exact trace_afterDrop w ne _
  | @enrich batch answer time s1 _ ph he _ =>
    rw [ph] at tr
    cases tr with
    | enriching ne rd =>
      rw [MessageBatch.inputs_ofMessages] at he ⊢
      exact trace_afterEnrich w ne rd time answer fun result ok => rp _ result s1 (ok ▸ he)
  | @publish batch time item items flags answer _ ph _ =>
    rw [ph] at tr
    cases tr with
    | publishing _ en len =>
      rw [List.append_assoc, ← WorkerConfig.publishes_concat w.config codec time len item answer]
      exact trace_afterPublish w time en len answer
  | ack ph _ =>
    rw [ph] at tr
    cases tr with
    | acking time en len ne =>
      rw [AckPolicy.select_eq, MessageBatch.ids_ofMessages]
      exact trace_afterAck w time en len ne _

/-- What a run adds to the calls of an iteration continues their trace. -/
lemma Run.trace {w' : Worker α} {s s' : σ} {said : List (Exchange α)}
    (rn : Run codec calls w s said w' s')
    (rp : ∀ inputs s result s1, (calls.enrich inputs).run s = (.ok result, s1) →
      List.Forall₂ Item.Reports inputs result.items)
    (tr : Trace codec w.config log w.phase) : Trace codec w.config (log ++ said) w'.phase := by
  induction rn generalizing log with
  | refl =>
    rw [List.append_nil]
    exact tr
  | @step w s x w1 s1 said _ _ ds _ ih =>
    have tr1 := ds.trace (fun inputs result s2 => rp inputs s result s2) tr
    rw [← ds.config_eq] at tr1 ⊢
    rw [List.append_cons]
    exact ih tr1

variable [Measured α]

end Worker

end Whereabouts
